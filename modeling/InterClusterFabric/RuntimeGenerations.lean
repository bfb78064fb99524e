import InterClusterFabric.RuntimeAgentActs
import InterClusterFabric.RuntimeAgentSafety
import InterClusterFabric.StoreRecall

/-! Generations over the lives of an agent. Agents follow one another on one directory; each presents a
generation that the directory has not recorded yet, or is refused. -/
namespace InterClusterFabric.RuntimeGenerations
open CoreStatus CoreIds CoreTime CoreHash CoreBytes ModelRecords ModelCanonical ModelCanonicalReads
open ModelRegistry ModelRegistryLaws StoreMutation StoreWal StoreReplay StoreRecovery StoreCompaction StoreRecall
open WireMessages RuntimeFencing RuntimeAgent RuntimeAgentRun RuntimeAgentActs RuntimeAgentSafety
open LibraryChecked LibraryOrdMap LibraryProgram Relation
open StoreDurable hiding loadState

/-! What the files keep. -/

/-- The record of a cluster is of this generation or a later one; nothing is asked without a bound. -/
def Recorded (bound : Option Generation) (found : Option Record) : Prop :=
  ∀ g ∈ bound, ∃ record, found = some (.cluster record) ∧ g ≤ record.generation

/-- The agent, its registry and its files are at the bound or beyond it. -/
structure Lasting (cluster : ClusterId) (bound : Option Generation) (a : Agent) : Prop where
  name : a.cluster = cluster
  faultless : ∀ i, (a.moments i).append = none
  formed : WellFormed a.registry
  ahead : ∀ g ∈ bound, g ≤ a.generation
  registry : Recorded bound (find a.registry (.cluster cluster))
  files : ∃ records, Recalls (.cluster cluster) (Recorded bound) a.files records

section Lasting

variable {cluster : ClusterId} {bound : Option Generation} {scene : Scene} {a a' : Agent}

/-- A record that is logged as the registry has it, whatever stood in the log. -/
lemma leads_cluster {Q : Option Record → Prop} {registry : Registry} {record : ClusterRecord} (hformed : WellFormed registry)
    (hfound : registry.clusters[cluster]? = some record) (hbound : ∀ g ∈ bound, g ≤ record.generation)
    (sequence : Sequence) (writtenAt : Timestamp) :
    Leads (.cluster cluster) Q (Recorded bound) ⟨.mutation, sequence, writtenAt, encodeMutation (.clusterPut record)⟩ := by
  obtain ⟨hid, hsound⟩ := find_cluster hformed hfound
  have hsized : (Mutation.clusterPut record).WellSized := by
    have hlength := hsound.2.2.bounded
    have hlimit : Limits.maxEndpointsPerCluster < 2 ^ 32 := by decide
    show record.endpoints.length < 2 ^ 32
    omega
  refine leads_mutation hsized fun registry _ g hg => ?_
  refine ⟨sorted { record with endpoints := sortEndpoints record.endpoints }, ?_, hbound g hg⟩
  show find (store registry (.cluster (sorted { record with endpoints := sortEndpoints record.endpoints })))
    (.cluster cluster) = _
  rw [find_store, if_pos]
  show Key.cluster cluster = Key.cluster record.id
  rw [hid]

/-- The other records an agent writes do not touch a cluster. -/
lemma leads_other {Q : Option Record → Prop} {mutation : Mutation}
    (hkind : mutation.kind = .contractPut ∨ mutation.kind = .grantPut ∨ mutation.kind = .auditAppend ∨
      mutation.kind = .metaSet) (sequence : Sequence) (writtenAt : Timestamp) :
    Leads (.cluster cluster) Q Q ⟨.mutation, sequence, writtenAt, encodeMutation mutation⟩ := by
  refine leads_of_kind fun m hm registry => ?_
  rw [← hm] at hkind
  cases m with
  | contractPut contract =>
    show find (store registry (.contract contract)) _ = _
    rw [find_store, if_neg (by simp [Record.key])]
  | grantPut grant =>
    show find (store registry (.grant grant)) _ = _
    rw [find_store, if_neg (by simp [Record.key])]
  | auditAppend record => rfl
  | metaSet term incarnation => rfl
  | _ => simp [Mutation.kind] at hkind

/-- A running agent loses no generation. -/
lemma Lasting.act (h : Lasting cluster bound a) (hact : Act scene a a') : Lasting cluster bound a' := by
  obtain ⟨records, hrecalls⟩ := h.files
  cases hact with
  | log mutation writtenAt hlogs =>
    refine ⟨h.name, h.faultless, h.formed, h.ahead, h.registry, ?_⟩
    rw [h.faultless a.index]
    refine hrecalls.write_same .mutation writtenAt (encodeMutation mutation) ?_
    cases mutation with
    | clusterPut record =>
      have hfound : a.registry.clusters[cluster]? = some record := by
        rw [← h.name]
        exact hlogs
      refine leads_cluster h.formed hfound (fun g hg => ?_) _ _
      obtain ⟨record', hfind, hle⟩ := h.registry g hg
      simp only [find, hfound, Option.map_some, Option.some.injEq, Record.cluster.injEq] at hfind
      rw [hfind]
      exact hle
    | contractPut contract => exact leads_other (.inl rfl) _ _
    | grantPut grant => exact leads_other (.inr (.inl rfl)) _ _
    | auditAppend record => exact leads_other (.inr (.inr (.inl rfl))) _ _
    | metaSet term incarnation => exact leads_other (.inr (.inr (.inr rfl))) _ _
    | _ => exact hlogs.elim
  | incident text writtenAt =>
    refine ⟨h.name, h.faultless, h.formed, h.ahead, h.registry, ?_⟩
    show ∃ records', Recalls _ _ (a.store.appendIncident a.files text writtenAt (a.moments a.index).append).files records'
    rw [h.faultless a.index]
    unfold DurableStore.appendIncident
    split
    · exact ⟨records, hrecalls⟩
    · exact hrecalls.write_same .incident writtenAt text (leads_incident text)
  | compact storeMeta writtenAt stream =>
    exact ⟨h.name, h.faultless, h.formed, h.ahead, h.registry,
      hrecalls.compact h.formed h.registry storeMeta writtenAt stream _ _⟩
  | edit registry hclusters hformed =>
    refine ⟨h.name, h.faultless, hformed h.formed, h.ahead, ?_, h.files⟩
    have hsame : find registry (.cluster cluster) = find a.registry (.cluster cluster) := by
      simp only [find, hclusters]
    show Recorded bound (find registry (.cluster cluster))
    rw [hsame]
    exact h.registry
  | describe existing lastSeen observedAt registry hput =>
    obtain ⟨record, hfound, hdescribes⟩ := found_described hput
    refine ⟨h.name, h.faultless, putCluster_wellFormed h.formed hput, h.ahead, fun g hg => ⟨record, ?_, ?_⟩, h.files⟩
    · rw [h.name] at hfound
      simp only [find, hfound, Option.map_some]
    · rw [hdescribes.generation]
      exact h.ahead g hg
  | advance generation hturns hlt =>
    exact ⟨h.name, h.faultless, h.formed, fun g hg => Counter.le_trans (h.ahead g hg) (Counter.le_of_lt hlt), h.registry,
      h.files⟩
  | _ => exact ⟨h.name, h.faultless, h.formed, h.ahead, h.registry, h.files⟩

lemma Lasting.acts (h : Lasting cluster bound a) (hacts : ReflTransGen (Act scene) a a') : Lasting cluster bound a' := by
  induction hacts with
  | refl => exact h
  | tail _ hact ih => exact ih.act hact

lemma Lasting.run (h : Lasting cluster bound a) (events : List Event) : Lasting cluster bound (run a events) := by
  induction events generalizing a with
  | nil => exact h
  | cons event rest ih => exact ih (h.acts (step_acts a event))

/-- A cluster that is logged, and the log has taken the record. -/
lemma logCluster_lasts {record : ClusterRecord} (h : Lasting cluster none a)
    (hfound : a.registry.clusters[cluster]? = some record) (hgeneration : record.generation = a.generation) :
    Steps.Returns (appendMutation (.clusterPut record)) a fun _ a' =>
      a'.generation = a.generation ∧ Lasting cluster (some a.generation) a' := by
  obtain ⟨records, hrecalls⟩ := h.files
  have hleads : Leads (.cluster cluster) (Recorded none) (Recorded (some a.generation)) ⟨.mutation, a.store.nextSequence,
      (a.moments a.index).now, encodeMutation (.clusterPut record)⟩ := by
    refine leads_cluster h.formed hfound (fun g hg => ?_) _ _
    rw [← Option.some.inj hg, hgeneration]
    exact Counter.le_iff.mpr le_rfl
  refine ⟨trivial, fun _ hok => ⟨rfl, h.name, h.faultless, h.formed, fun g hg => ?_, fun g hg => ⟨record, ?_, ?_⟩, ?_⟩⟩
  · rw [← Option.some.inj hg]
    exact Counter.le_iff.mpr le_rfl
  · simp only [appendMutation, find]
    exact congrArg (Option.map Record.cluster) hfound
  · rw [← Option.some.inj hg, hgeneration]
    exact Counter.le_iff.mpr le_rfl
  · have hwrite := hrecalls.write a.store .mutation (a.moments a.index).now
      (encodeMutation (.clusterPut record)) (fun _ _ g hg => by cases hg) hleads
    have hrun : appendMutation (.clusterPut record) a =
        ((a.store.append a.files (.clusterPut record) (a.moments a.index).now none).result.map fun _ => (),
          wrote a (a.store.append a.files (.clusterPut record) (a.moments a.index).now none)) := by
      rw [← h.faultless a.index]
      rfl
    rw [hrun] at hok ⊢
    rcases hwrite with ⟨-, hrecords⟩ | ⟨⟨status, herror⟩, -⟩
    · exact hrecords
    · rw [DurableStore.append, herror] at hok
      cases hok

/-- Once the cluster is persisted, its generation is in the registry and in the files. -/
lemma persistCluster_lasts (h : Lasting cluster none a) :
    Steps.Returns persistCluster a fun _ a' => a'.generation = a.generation ∧ Lasting cluster (some a.generation) a' := by
  have hask {b : Agent} (hb : Lasting cluster none b) (hsame : b.generation = a.generation) :
      Steps.Returns RuntimeAgent.now b fun _ b' => Lasting cluster none b' ∧ b'.generation = a.generation := by
    refine now_calms.toReturns.mono fun _ b' hb' => ⟨hb.acts hb'.1, ?_⟩
    rw [hb'.2]
    exact hsame
  refine (hask h rfl).bind fun lastSeen a₁ _ h₁ => (hask h₁.1 h₁.2).bind fun observedAt a₂ _ h₂ => Steps.get_bind ?_
  obtain ⟨h₂, hgeneration⟩ := h₂
  have hput : Steps.Returns (Program.focus Agent.registry (fun a registry => { a with registry })
      (Program.update fun registry => registry.putCluster (sealedCluster
        (describedCluster a₂ (a₂.registry.clusters[a₂.cluster]?.getD {}) lastSeen observedAt)))) a₂
      fun _ a' => Lasting cluster none a' ∧ a'.generation = a.generation ∧
        ∃ record, a'.registry.clusters[cluster]? = some record ∧ record.generation = a'.generation := by
    refine ⟨trivial, fun _ hrun => ?_⟩
    unfold Program.focus Program.update at hrun ⊢
    cases hok : a₂.registry.putCluster (sealedCluster
        (describedCluster a₂ (a₂.registry.clusters[a₂.cluster]?.getD {}) lastSeen observedAt)) with
    | error status =>
      simp only [hok] at hrun
      cases hrun
    | ok registry =>
      obtain ⟨record, hfound, hdescribes⟩ := found_described hok
      rw [h₂.name] at hfound
      simp only [hok]
      have hact : Act calm a₂ { a₂ with registry } := .describe _ lastSeen observedAt registry hok
      exact ⟨h₂.act hact, hgeneration, record, hfound, hdescribes.generation⟩
  refine hput.bind fun _ a₃ _ h₃ => Steps.get_bind ?_
  obtain ⟨hlasts, hsame, record, hfound, hrecord⟩ := h₃
  rw [h₂.name, hfound, ← hsame]
  exact (logCluster_lasts hlasts hfound hrecord).bind fun _ _ _ hdone => Steps.pure hdone

end Lasting

/-! The start. -/

/-- The state in which the agent looks at what it has recorded before. -/
def begun (a : Agent) : Agent :=
  configured { a with index := a.index + 2 } (RuntimeCoordinator.stamp (a.moments a.index).entropy)
    (a.moments (a.index + 1)).now

/-- What follows once the agent has its identity. -/
def settle (startedAt : Timestamp) (a : Agent) : AgentOp Unit := do
  let moment ← moment
  onStore fun store files => store.appendMeta files (beginMeta a) startedAt moment.append
  Program.onlyIf (a.recovery.recoveredFromStore = true) fenceRecovered
  RuntimeAgent.appendAudit "begin-incarnation" a.incarnation.toText .ok
    (ascii "term=" ++ CoreStatus.decimal a.term.value.toNat)

lemma beginIncarnation_eq (a : Agent) :
    beginIncarnation a =
      (resume >>= fun _ => MonadState.get >>= settle (a.moments (a.index + 1)).now) (begun a) := rfl

def staleStatus : Status :=
  Status.make .stale (ascii "the configured generation is older than the generation recorded on disk")

/-- The identity the agent resumes with, unless it is refused. -/
inductive Resumes (a : Agent) : Agent → Prop
  | fresh (h : a.registry.clusters[a.cluster]? = none) : Resumes a a
  | later (previous : ClusterRecord) (h : a.registry.clusters[a.cluster]? = some previous)
      (hle : previous.generation ≤ a.config.generation) : Resumes a (resumed a previous)

lemma resume_cases (a : Agent) :
    (∃ previous, a.registry.clusters[a.cluster]? = some previous ∧ a.config.generation < previous.generation ∧
      resume a = (.error staleStatus, a)) ∨ ∃ a', Resumes a a' ∧ resume a = (.ok (), a') := by
  unfold resume
  rw [Program.get_bind_run]
  cases hfound : a.registry.clusters[a.cluster]? with
  | none => exact .inr ⟨a, .fresh hfound, rfl⟩
  | some previous =>
    dsimp only
    by_cases hlt : a.config.generation < previous.generation
    · rw [if_pos hlt]
      exact .inl ⟨previous, rfl, hlt, rfl⟩
    · rw [if_neg hlt]
      exact .inr ⟨resumed a previous, .later previous hfound (Counter.not_lt_iff.mp hlt), rfl⟩

section Start

variable {cluster : ClusterId} {bound : Option Generation} {a a' : Agent}

/-- The identity is not behind what is recorded. -/
lemma Resumes.ahead (h : Resumes a a') {previous : ClusterRecord}
    (hfound : a.registry.clusters[a.cluster]? = some previous) : previous.generation ≤ a'.generation := by
  cases h with
  | fresh hnone =>
    rw [hnone] at hfound
    cases hfound
  | later known hknown hle =>
    rw [hknown] at hfound
    cases hfound
    show previous.generation ≤ (if a.config.generation = previous.generation then previous.generation.increment
      else a.config.generation)
    split
    · exact Counter.le_increment _
    · exact hle

/-- The identity is beyond what is recorded, as long as generations can be counted. -/
lemma Resumes.beyond (h : Resumes a a') (hbound : a'.generation.value.toNat < 2 ^ 62) {previous : ClusterRecord}
    (hfound : a.registry.clusters[a.cluster]? = some previous) : previous.generation < a'.generation := by
  cases h with
  | fresh hnone =>
    rw [hnone] at hfound
    cases hfound
  | later known hknown hle =>
    rw [hknown] at hfound
    cases hfound
    have hgeneration : (resumed a previous).generation =
        if a.config.generation = previous.generation then previous.generation.increment else a.config.generation := rfl
    rw [hgeneration] at hbound ⊢
    split at hbound
    · rename_i hsame
      rw [if_pos hsame]
      exact Counter.lt_increment hbound
    · rename_i hne
      rw [if_neg hne, Counter.lt_iff]
      rw [Counter.le_iff] at hle
      have hvalues : a.config.generation.value.toNat ≠ previous.generation.value.toNat :=
        fun hvalue => hne (Counter.ext (UInt64.toNat_inj.mp hvalue))
      omega

/-- An agent that resumes keeps what its files recall. -/
lemma Resumes.lasting (h : Resumes a a') (hname : a.cluster = cluster) (hfaultless : ∀ i, (a.moments i).append = none)
    (hformed : WellFormed a.registry) (hrecorded : Recorded bound (find a.registry (.cluster cluster)))
    (hfiles : ∃ records, Recalls (.cluster cluster) (Recorded bound) a.files records) : Lasting cluster bound a' := by
  have hahead : ∀ g ∈ bound, g ≤ a'.generation := by
    intro g hg
    obtain ⟨record, hfind, hle⟩ := hrecorded g hg
    have hfound : a.registry.clusters[a.cluster]? = some record := by
      rw [hname]
      simpa [find] using hfind
    exact Counter.le_trans hle (h.ahead hfound)
  cases h with
  | fresh hnone => exact ⟨hname, hfaultless, hformed, hahead, hrecorded, hfiles⟩
  | later previous hfound hle => exact ⟨hname, hfaultless, hformed, hahead, hrecorded, hfiles⟩

lemma fenceRecoveredGrant_calms (id : GrantId) (grant : GrantRecord) (hfound : a.registry.grants[id]? = some grant) :
    Calms (fenceRecoveredGrant id grant) a := by
  refine Steps.onlyIf (fun _ => Steps.modify_bind (.single (.note ..)) ?_) fun _ => trivial
  exact rewriteGrant_calms hfound rfl rfl rfl

lemma fenceRecovered_calms : Calms fenceRecovered a := by
  refine (sweepGrants_calms fun _ _ _ _ => fenceRecoveredGrant_calms _ _).bind fun _ a₁ _ _ => Steps.get_bind ?_
  exact ⟨.single (.incident _ _), fun _ _ => trivial⟩

lemma logMeta_calms {startedAt : Timestamp} {b : Agent} : Calms (do
    let moment ← moment
    onStore fun store files => store.appendMeta files (beginMeta b) startedAt moment.append) a :=
  ⟨.single (.log (.metaSet (beginMeta b).term (beginMeta b).incarnation) startedAt trivial), fun _ _ => trivial⟩

lemma settle_calms (startedAt : Timestamp) (b : Agent) : Calms (settle startedAt b) a := by
  refine Steps.bind_assoc logMeta_calms fun _ a₁ _ _ => ?_
  refine Steps.bind (Steps.onlyIf (fun _ => fenceRecovered_calms) fun _ => trivial) fun _ a₂ _ _ => ?_
  exact appendAudit_calms _ _ _ _

/-- Only a turn gives the agent another generation. -/
lemma generation_of_calm (h : ReflTransGen (Act calm) a a') : a'.generation = a.generation := by
  induction h with
  | refl => rfl
  | tail _ hact ih =>
    rw [← ih]
    cases hact with
    | advance generation hturns _ => exact hturns.elim
    | _ => rfl

/-- The beginning of an incarnation and the record of its cluster: refused as stale, or under the identity
the agent resumes with. -/
lemma begin_cases (a : Agent) :
    (∃ previous, a.registry.clusters[a.cluster]? = some previous ∧ a.config.generation < previous.generation ∧
      (do beginIncarnation; persistCluster : AgentOp Unit) a = (.error staleStatus, begun a)) ∨
    ∃ a', Resumes (begun a) a' ∧ (do beginIncarnation; persistCluster : AgentOp Unit) a =
      (do settle (a.moments (a.index + 1)).now a'; persistCluster : AgentOp Unit) a' := by
  rcases resume_cases (begun a) with ⟨previous, hfound, hlt, hresume⟩ | ⟨a', hresumes, hresume⟩
  · have hbegin : beginIncarnation a = (.error staleStatus, begun a) := by
      rw [beginIncarnation_eq, Program.bind_error hresume]
    exact .inl ⟨previous, hfound, hlt, Program.bind_error hbegin⟩
  · refine .inr ⟨a', hresumes, ?_⟩
    have hbegin : beginIncarnation a = settle (a.moments (a.index + 1)).now a' a' := by
      rw [beginIncarnation_eq, Program.bind_ok hresume]
      rfl
    show (beginIncarnation >>= fun _ => persistCluster) a =
      (settle (a.moments (a.index + 1)).now a' >>= fun _ => persistCluster) a'
    cases hsettle : settle (a.moments (a.index + 1)).now a' a' with
    | mk result a'' =>
      rw [hsettle] at hbegin
      cases result with
      | error status => rw [Program.bind_error hbegin, Program.bind_error hsettle]
      | ok u => rw [Program.bind_ok hbegin, Program.bind_ok hsettle]

lemma settled_calms (startedAt : Timestamp) (b : Agent) :
    Calms (do settle startedAt b; persistCluster : AgentOp Unit) a :=
  (settle_calms startedAt b).bind fun _ _ _ _ => persistCluster_calms.mono fun _ _ _ => trivial

lemma settled_lasts (startedAt : Timestamp) (b : Agent) (h : Lasting cluster none a) :
    Steps.Returns (do settle startedAt b; persistCluster : AgentOp Unit) a fun _ a' =>
      a'.generation = a.generation ∧ Lasting cluster (some a.generation) a' := by
  refine (settle_calms startedAt b).toReturns.bind fun _ a₁ _ h₁ => ?_
  have hsame : a₁.generation = a.generation := generation_of_calm h₁.1
  rw [← hsame]
  exact persistCluster_lasts (h.acts h₁.1)

/-- The configuration of an agent changes only where it turns. -/
lemma config_of_calm (h : ReflTransGen (Act calm) a a') : a'.config = a.config := by
  induction h with
  | refl => rfl
  | tail _ hact ih =>
    rw [← ih]
    cases hact with
    | declare endpoints hturns _ => exact hturns.elim
    | _ => rfl

end Start

/-! Refusals. -/

/-- The log, the registry or the declaration of the cluster is beyond a bound. -/
def AtBound (status : Status) : Prop := status.outcome = .capacityExceeded

lemma atBound_make (message : Bytes) : AtBound (Status.make .capacityExceeded message) := Status.make_outcome _ _

/-- An operation that nothing but a bound stops, as long as the file system does not fail. -/
def Proceeds {α : Type} (p : AgentOp α) (a : Agent) : Prop :=
  (∀ i, (a.moments i).append = none) → ErrorsIn AtBound (p a).1

section Proceeds

variable {α β : Type} {a : Agent}

lemma moments_of_acts {scene : Scene} {a a' : Agent} (h : ReflTransGen (Act scene) a a') : a'.moments = a.moments := by
  induction h with
  | refl => rfl
  | tail _ hact ih =>
    rw [← ih]
    cases hact <;> rfl

lemma Proceeds.bind {p : AgentOp α} {f : α → AgentOp β} {Q : α → Agent → Prop} (hacts : Acts calm p a Q)
    (hp : Proceeds p a) (hf : ∀ v a', ReflTransGen (Act calm) a a' → Q v a' → Proceeds (f v) a') :
    Proceeds (p >>= f) a := by
  intro hfaultless
  cases hrun : p a with
  | mk result a' =>
    have hrelated := hacts.related
    have hreturns := hacts.returns
    rw [hrun] at hrelated hreturns
    cases result with
    | error status =>
      rw [Program.bind_error hrun]
      rintro status' ⟨⟩
      exact hp hfaultless status (by rw [hrun])
    | ok v =>
      rw [Program.bind_ok hrun]
      exact hf v a' hrelated (hreturns v rfl) (by rw [moments_of_acts hrelated]; exact hfaultless)

lemma Proceeds.get_bind {f : Agent → AgentOp β} (h : Proceeds (f a) a) : Proceeds (MonadState.get >>= f) a := h

/-- What always returns proceeds. -/
lemma proceeds_of_returns {p : AgentOp α} (h : ∃ v, (p a).1 = .ok v) : Proceeds p a := by
  obtain ⟨v, hv⟩ := h
  intro _ status hstatus
  rw [hv] at hstatus
  cases hstatus

lemma write_bound {store : DurableStore} {files : Files} {kind : RecordKind} {writtenAt : Timestamp} {payload : Bytes}
    (hkind : recordKindKnown kind = true) :
    ErrorsIn AtBound (store.write files kind writtenAt payload none).result := by
  have hadmits : ErrorsIn AtBound (store.wal.admits kind payload) := by
    unfold Wal.admits
    refine ErrorsIn.passed (by simp [hkind]) ((ErrorsIn.reject (atBound_make _)).bind fun _ => ?_)
    exact (ErrorsIn.reject (atBound_make _)).bind fun _ => ErrorsIn.reject (atBound_make _)
  unfold DurableStore.write
  cases hresult : store.wal.admits kind payload with
  | error status =>
    rintro status' ⟨⟩
    exact hadmits status hresult
  | ok u => exact ErrorsIn.pure _

lemma appendMutation_proceeds (mutation : Mutation) : Proceeds (appendMutation mutation) a := by
  intro hfaultless status hstatus
  have hrun : (appendMutation mutation a).1 = (a.store.append a.files mutation (a.moments a.index).now none).result.map
      fun _ => () := by
    rw [← hfaultless a.index]
    rfl
  rw [hrun] at hstatus
  cases hwrite : (a.store.append a.files mutation (a.moments a.index).now none).result with
  | ok sequence =>
    rw [hwrite] at hstatus
    cases hstatus
  | error fault =>
    rw [hwrite] at hstatus
    cases hstatus
    exact write_bound rfl _ hwrite

lemma Proceeds.foldEach {xs : List α} {acc : β} {f : β → α → AgentOp β}
    (hf : ∀ x acc a', Calms (f acc x) a' ∧ Proceeds (f acc x) a') : Proceeds (Program.foldEach xs acc f) a := by
  induction xs generalizing acc a with
  | nil => exact proceeds_of_returns ⟨acc, rfl⟩
  | cons x xs ih => exact Proceeds.bind (hf x acc a).1 (hf x acc a).2 fun _ _ _ _ => ih

lemma Proceeds.onlyIf {c : Prop} [Decidable c] {p : AgentOp Unit} (hp : Proceeds p a) :
    Proceeds (Program.onlyIf c p) a := by
  unfold Program.onlyIf
  split
  · exact hp
  · exact proceeds_of_returns ⟨(), rfl⟩

/-- A change of the registry, as far as it may be refused. -/
lemma update_proceeds {f : Registry → Result Registry} (h : ErrorsIn AtBound (f a.registry)) :
    Proceeds (Program.focus Agent.registry (fun a registry => { a with registry }) (Program.update f)) a := by
  intro _ status hstatus
  unfold Program.focus Program.update at hstatus
  cases hf : f a.registry with
  | error e =>
    simp only [hf, Except.error.injEq] at hstatus
    rw [← hstatus]
    exact h e hf
  | ok registry => simp [hf] at hstatus

lemma auditUpdate_calms (now : Timestamp) (actor action subject : Bytes) (outcome : Outcome) (detail : Bytes) :
    Calms (Program.focus Agent.registry (fun a registry => { a with registry })
      (RuntimeFencing.appendAudit now actor action subject outcome detail)) a := by
  refine update_calms fun registry hok => ⟨?_, fun hformed => appendAudit_wellFormed hformed hok⟩
  obtain ⟨-, -, rfl⟩ := appendAudit_eq_ok.mp hok
  rfl

lemma appendAudit_proceeds (action : String) (subject : Bytes) (outcome : Outcome) (detail : Bytes) :
    Proceeds (RuntimeAgent.appendAudit action subject outcome detail) a := by
  show Proceeds (if Limits.maxAuditRecords ≤ a.registry.audit.length then pure () else do
    let now ← RuntimeAgent.now
    Program.focus Agent.registry (fun a registry => { a with registry })
      (RuntimeFencing.appendAudit now a.cluster.value (ascii action) subject outcome detail)
    Program.forEach (← get).registry.audit.getLast?.toList fun record => appendMutation (.auditAppend record)) a
  split
  · exact proceeds_of_returns ⟨(), rfl⟩
  refine Proceeds.bind now_calms (proceeds_of_returns ⟨_, rfl⟩) fun now a₁ _ _ => ?_
  refine Proceeds.bind (auditUpdate_calms _ _ _ _ _ _) (update_proceeds ?_) fun _ a₂ _ _ => ?_
  · refine (ErrorsIn.reject (atBound_make _)).bind fun _ => ErrorsIn.passed ?_ (ErrorsIn.pure _)
    rintro ⟨last, hlast, hsequence⟩
    refine hsequence ?_
    rw [Option.mem_def] at hlast
    simp only [auditRecord, hlast, Option.map_some, Option.getD_some]
  · show Proceeds (Program.forEach a₂.registry.audit.getLast?.toList fun record =>
      appendMutation (.auditAppend record)) a₂
    cases a₂.registry.audit.getLast? with
    | none => exact proceeds_of_returns ⟨(), rfl⟩
    | some record =>
      exact Proceeds.bind (logAudit_calms record) (appendMutation_proceeds _) fun _ _ _ _ =>
        proceeds_of_returns ⟨(), rfl⟩

/-- A record written to the store, with the answer of the environment. -/
lemma onStore_proceeds {op : DurableStore → Files → AppendFault → Written Sequence}
    (h : ErrorsIn AtBound (op a.store a.files none).result) :
    Proceeds (do let m ← moment; onStore fun store files => op store files m.append) a := by
  intro hfaultless status hstatus
  have hrun : ((do let m ← moment; onStore fun store files => op store files m.append : AgentOp Unit) a).1 =
      (op a.store a.files none).result.map fun _ => () := by
    rw [← hfaultless a.index]
    rfl
  rw [hrun] at hstatus
  cases hresult : (op a.store a.files none).result with
  | error e =>
    simp only [hresult, Except.map, Except.error.injEq] at hstatus
    rw [← hstatus]
    exact h e hresult
  | ok sequence => simp [hresult, Except.map] at hstatus

lemma fenceRecovered_proceeds : Proceeds fenceRecovered a := by
  have hvisit (id : GrantId) (grant : GrantRecord) (a' : Agent) : Proceeds (fenceRecoveredGrant id grant) a' := by
    unfold fenceRecoveredGrant
    generalize ascii "recovered enforcement is historical until the coordinator revalidates it" = note
    refine Proceeds.onlyIf ?_
    exact fun hfaultless => appendMutation_proceeds _ hfaultless
  have hsweep : Proceeds (sweepGrants () fun _ id grant => fenceRecoveredGrant id grant) a := by
    refine Proceeds.foldEach (a := a) fun id _ a' => ⟨Steps.get_bind ?_, ?_⟩
    · split
      · exact Steps.pure trivial
      · exact fenceRecoveredGrant_calms _ _ ‹_›
    · intro hfaultless
      rw [Program.get_bind_run]
      cases a'.registry.grants[id]? with
      | none => exact proceeds_of_returns ⟨(), rfl⟩ hfaultless
      | some grant => exact hvisit _ _ _ hfaultless
  refine Proceeds.bind (sweepGrants_calms fun _ _ _ _ => fenceRecoveredGrant_calms _ _) hsweep fun _ a₁ _ _ => ?_
  have hincident (text : Bytes) : ErrorsIn AtBound (a₁.store.appendIncident a₁.files text a₁.startedAt none).result := by
    unfold DurableStore.appendIncident
    split
    · exact ErrorsIn.throw (atBound_make _)
    · exact write_bound rfl
  intro hfaultless
  rw [Program.get_bind_run]
  generalize ascii "recovered from store: " = text
  generalize ascii " enforcement records fenced pending revalidation" = ending
  exact onStore_proceeds (hincident _) hfaultless

lemma settle_proceeds (startedAt : Timestamp) (b : Agent) : Proceeds (settle startedAt b) a := by
  have hlog : Proceeds (do
      let moment ← moment
      onStore fun store files => store.appendMeta files (beginMeta b) startedAt moment.append) a :=
    onStore_proceeds (write_bound rfl)
  have hrest : Proceeds (do
      (do
        let moment ← moment
        onStore fun store files => store.appendMeta files (beginMeta b) startedAt moment.append : AgentOp Unit)
      Program.onlyIf (b.recovery.recoveredFromStore = true) fenceRecovered
      RuntimeAgent.appendAudit "begin-incarnation" b.incarnation.toText .ok
        (ascii "term=" ++ CoreStatus.decimal b.term.value.toNat)) a := by
    refine Proceeds.bind logMeta_calms hlog fun _ a₁ _ _ => ?_
    refine Proceeds.bind (Steps.onlyIf (fun _ => fenceRecovered_calms) fun _ => trivial)
      (Proceeds.onlyIf fenceRecovered_proceeds) fun _ a₂ _ _ => appendAudit_proceeds _ _ _ _
  intro hfaultless
  have hrun := hrest hfaultless
  rw [Program.bind_assoc_run] at hrun
  exact hrun

/-- A cluster with its names and with endpoints of distinct identities. -/
structure Declared (config : Config) : Prop where
  checked : checkConfig config = .ok ()
  distinct : (config.endpoints.map EndpointRecord.id).Nodup

/-- Endpoints of distinct identities are strictly ordered once they are sorted. -/
lemma ordered_of_nodup {endpoints : List EndpointRecord} (h : (endpoints.map EndpointRecord.id).Nodup) :
    EndpointsOrdered (sortEndpoints endpoints) := by
  have hids : (sortEndpoints endpoints).Pairwise fun x y => x.id ≠ y.id := by
    have hsorted : ((sortEndpoints endpoints).map EndpointRecord.id).Nodup :=
      ((List.perm_insertionSort _ endpoints).map EndpointRecord.id).nodup_iff.mpr h
    exact List.pairwise_map.mp hsorted
  refine ((sortEndpoints_pairwise endpoints).and hids).imp fun {x y} hxy => ?_
  cases hcompare : compare x.id y.id with
  | lt => rfl
  | eq => exact absurd (Std.LawfulEqOrd.eq_of_compare hcompare) hxy.2
  | gt => exact absurd hcompare hxy.1

/-- The registry takes the record of a declared cluster, unless a bound is in its way. -/
lemma putCluster_bound {registry : Registry} {record : ClusterRecord} (hid : record.id.value ≠ [])
    (hdomain : record.domain.value ≠ []) (howned : ∀ e ∈ record.endpoints, e.cluster = record.id)
    (hordered : EndpointsOrdered (sortEndpoints record.endpoints)) :
    ErrorsIn AtBound (registry.putCluster record) := by
  have hchecks (endpoints : List EndpointRecord) (h : ∀ e ∈ endpoints, e.cluster = record.id) :
      ErrorsIn AtBound (checkEndpoints record.id endpoints) := by
    induction endpoints with
    | nil => exact ErrorsIn.pure ()
    | cons e rest ih =>
      refine ErrorsIn.passed (not_not_intro (h e (by simp))) ((ErrorsIn.reject (atBound_make _)).bind fun _ => ?_)
      exact ih fun e he => h e (by simp [he])
  unfold Registry.putCluster
  refine ErrorsIn.passed (by simpa [name_isEmpty_iff] using hid) (ErrorsIn.passed (by simpa [name_isEmpty_iff] using hdomain) ?_)
  refine (ErrorsIn.reject (atBound_make _)).bind fun _ => (hchecks _ fun e he => ?_).bind fun _ => ?_
  · exact howned e ((List.perm_insertionSort _ _).mem_iff.mp he)
  refine ErrorsIn.passed (by simp [hasAdjacentDuplicate_of_ordered hordered]) (ErrorsIn.bind ?_ fun _ => ErrorsIn.pure _)
  unfold insertBounded
  split
  · exact ErrorsIn.throw (atBound_make _)
  · exact ErrorsIn.pure _

lemma persistCluster_proceeds (hname : a.config.cluster.value ≠ []) (hdomain : a.config.domain.value ≠ [])
    (hdistinct : (a.config.endpoints.map EndpointRecord.id).Nodup) : Proceeds persistCluster a := by
  refine Proceeds.bind now_calms (proceeds_of_returns ⟨_, rfl⟩) fun lastSeen a₁ _ h₁ => ?_
  refine Proceeds.bind now_calms (proceeds_of_returns ⟨_, rfl⟩) fun observedAt a₂ _ h₂ => ?_
  have hconfig : a₂.config = a.config := by rw [h₂, h₁]
  have hput : ErrorsIn AtBound (a₂.registry.putCluster (sealedCluster
      (describedCluster a₂ (a₂.registry.clusters[a₂.cluster]?.getD {}) lastSeen observedAt))) := by
    have hids : ((a₂.config.endpoints.map fun endpoint =>
        { endpoint with cluster := a₂.cluster, policyGeneration := a₂.policyGeneration }).map EndpointRecord.id).Nodup := by
      rw [List.map_map, hconfig]
      exact hdistinct
    refine putCluster_bound ?_ ?_ (fun e he => ?_) ?_
    · show a₂.config.cluster.value ≠ []
      rw [hconfig]
      exact hname
    · show a₂.config.domain.value ≠ []
      rw [hconfig]
      exact hdomain
    · have hmem := (List.perm_insertionSort _ _).mem_iff.mp he
      obtain ⟨endpoint, -, rfl⟩ := List.mem_map.mp hmem
      rfl
    · show EndpointsOrdered (sortEndpoints (declaredEndpoints a₂))
      rw [declaredEndpoints, sortEndpoints_idem]
      exact ordered_of_nodup hids
  have hacts : Calms (Program.focus Agent.registry (fun a registry => { a with registry })
      (Program.update fun registry => registry.putCluster (sealedCluster
        (describedCluster a₂ (a₂.registry.clusters[a₂.cluster]?.getD {}) lastSeen observedAt)))) a₂ := by
    refine ⟨?_, fun _ _ => trivial⟩
    unfold Program.focus Program.update
    cases hok : a₂.registry.putCluster (sealedCluster
        (describedCluster a₂ (a₂.registry.clusters[a₂.cluster]?.getD {}) lastSeen observedAt)) with
    | error status =>
      simp only [hok]
      exact .refl
    | ok registry =>
      simp only [hok]
      exact .single (.describe _ lastSeen observedAt registry hok)
  refine Proceeds.get_bind (Proceeds.bind hacts (update_proceeds hput) fun _ a₃ _ _ => Proceeds.get_bind ?_)
  show Proceeds (Program.forEach a₃.registry.clusters[a₂.cluster]?.toList fun record =>
    appendMutation (.clusterPut record)) a₃
  cases a₃.registry.clusters[a₂.cluster]? with
  | none => exact proceeds_of_returns ⟨(), rfl⟩
  | some record =>
    have hlast : Proceeds (appendMutation (.clusterPut record) >>= fun _ => pure ()) a₃ := by
      intro hfaultless status hstatus
      refine appendMutation_proceeds (.clusterPut record) hfaultless status ?_
      cases hrun : appendMutation (.clusterPut record) a₃ with
      | mk result a₄ =>
        cases result with
        | error fault =>
          rw [Program.bind_error hrun] at hstatus
          exact hstatus
        | ok u =>
          rw [Program.bind_ok hrun] at hstatus
          cases hstatus
    exact hlast

end Proceeds

/-! Lives. -/

/-- The start of an agent up to the record of its cluster. -/
def opening (launch : Launch) : AgentOp Unit := do
  Program.ofResult (checkConfig launch.config)
  RuntimeAgentRun.loadState launch.faults
  beginIncarnation
  persistCluster

/-- An agent on the directory: what its start meets, and what happens to it once it runs. -/
structure Life where
  launch : Launch
  events : List Event := []

namespace Life

/-- The generation the agent presents, or why it did not get that far. -/
def presents (life : Life) (files : Files) : Result Generation :=
  match opening life.launch (launched life.launch files) with
  | (.ok _, a) => .ok a.generation
  | (.error status, _) => .error status

/-- The files the agent leaves behind. -/
def left (life : Life) (files : Files) : Files :=
  match start life.launch (launched life.launch files) with
  | (.ok _, a) => (run a life.events).files
  | (.error _, a) => a.files

/-- The store of the directory, as the agent opens it. -/
def opens (life : Life) (files : Files) : Result Opened :=
  openStore (storeOptions life.launch.config) ⟨RuntimeCoordinator.stamp (life.launch.moments 0).entropy⟩
    life.launch.faults files

/-- The agent once it has loaded its state. -/
def loads (life : Life) (files : Files) (opened : Opened) : Agent :=
  loaded { launched life.launch files with index := 1 } opened

end Life

/-- The generations of the agents that follow one another on the files. -/
def generations : Files → List Life → List Generation
  | _, [] => []
  | files, life :: rest => (life.presents files).toOption.toList ++ generations (life.left files) rest

section Lives

variable {life : Life} {files : Files} {cluster : ClusterId} {bound : Option Generation}

/-- How far the opening of a life gets: the agent is not made or its store does not open; it is refused as
stale; or it goes on under the identity it resumes with. -/
lemma opening_cases (life : Life) (files : Files) :
    (∃ status a, opening life.launch (launched life.launch files) = (.error status, a) ∧ a.files = files ∧
      ((∃ fault, checkConfig life.launch.config = .error fault) ∨ ∃ fault, life.opens files = .error fault)) ∨
    ∃ opened, life.opens files = .ok opened ∧
      ((∃ previous, opened.recovery.registry.clusters[life.launch.config.cluster]? = some previous ∧
          life.launch.config.generation < previous.generation ∧
          opening life.launch (launched life.launch files) = (.error staleStatus, begun (life.loads files opened))) ∨
        ∃ a, Resumes (begun (life.loads files opened)) a ∧ ∃ startedAt,
          opening life.launch (launched life.launch files) =
            (do settle startedAt a; persistCluster : AgentOp Unit) a) := by
  unfold opening
  cases hcheck : checkConfig life.launch.config with
  | error status =>
    have hrun : (Program.ofResult (.error status) : AgentOp Unit) (launched life.launch files) =
        (.error status, launched life.launch files) := rfl
    exact .inl ⟨status, _, Program.bind_error hrun, rfl, .inl ⟨status, rfl⟩⟩
  | ok u =>
    have hrun : (Program.ofResult (.ok u) : AgentOp Unit) (launched life.launch files) =
        (.ok u, launched life.launch files) := rfl
    rw [Program.bind_ok hrun]
    have hload : RuntimeAgentRun.loadState life.launch.faults (launched life.launch files) =
        (Program.ofResult (life.opens files) >>= fun opened => modify fun a => loaded a opened : AgentOp Unit)
          { launched life.launch files with index := 1 } := rfl
    cases hopens : life.opens files with
    | error status =>
      rw [hopens] at hload
      exact .inl ⟨status, _, Program.bind_error hload, rfl, .inr ⟨status, rfl⟩⟩
    | ok opened =>
      rw [hopens] at hload
      refine .inr ⟨opened, rfl, ?_⟩
      have hloads := Program.bind_ok (f := fun _ => (do beginIncarnation; persistCluster : AgentOp Unit)) hload
      rcases begin_cases (life.loads files opened) with ⟨previous, hfound, hlt, hbegin⟩ | ⟨a, hresumes, hbegin⟩
      · exact .inl ⟨previous, hfound, hlt, hloads.trans hbegin⟩
      · exact .inr ⟨a, hresumes, _, hloads.trans hbegin⟩

/-- After the opening there is only the listener. -/
lemma start_eq (launch : Launch) (a : Agent) :
    start launch a = (opening launch >>= fun _ => Program.ofResult (attempt launch.listening)) a := by
  have hassoc (p : AgentOp Unit) (f g : Unit → AgentOp Unit) : (p >>= f) >>= g = p >>= fun u => f u >>= g :=
    funext (Program.bind_assoc_run p f g)
  simp only [opening, start, hassoc]

lemma left_of_error {status : Status} {a : Agent}
    (h : opening life.launch (launched life.launch files) = (.error status, a)) : life.left files = a.files := by
  rw [Life.left, start_eq, Program.bind_error h]

lemma left_of_ok {a : Agent} (h : opening life.launch (launched life.launch files) = (.ok (), a)) :
    ∃ events, life.left files = (run a events).files := by
  rw [Life.left, start_eq, Program.bind_ok h]
  unfold Program.ofResult
  cases attempt life.launch.listening with
  | error status => exact ⟨[], rfl⟩
  | ok u => exact ⟨life.events, rfl⟩

/-- Whatever opens the files finds the cluster at the bound or beyond it. -/
def Remembers (cluster : ClusterId) (bound : Option Generation) (files : Files) : Prop :=
  ∀ options stream faults opened, openStore options stream faults files = .ok opened →
    Recorded bound (find opened.recovery.registry (.cluster cluster))

lemma Lasting.remembers {a : Agent} (h : Lasting cluster bound a) : Remembers cluster bound a.files := by
  intro options stream faults opened hopened
  obtain ⟨records, hrecalls⟩ := h.files
  exact hrecalls.recovered hopened

variable (hname : life.launch.config.cluster = cluster) (hfaultless : ∀ i, (life.launch.moments i).append = none)
include hname hfaultless

/-- The agent that resumes on an opened store, at any bound that the store meets. -/
lemma lasting_of_resumes {opened : Opened} {a : Agent} (hopens : life.opens files = .ok opened)
    (hresumes : Resumes (begun (life.loads files opened)) a)
    (hrecorded : Recorded bound (find opened.recovery.registry (.cluster cluster))) : Lasting cluster bound a :=
  hresumes.lasting hname hfaultless (sane_of_openStore hopens).formed hrecorded (recalls_of_open hopens hrecorded)

/-- A life forgets no generation. -/
lemma remembers_left (h : Remembers cluster bound files) : Remembers cluster bound (life.left files) := by
  rcases opening_cases life files with ⟨status, a, hrun, hfiles, -⟩ | ⟨opened, hopens, hcase⟩
  · rw [left_of_error hrun, hfiles]
    exact h
  have hrecorded := h _ _ _ opened hopens
  rcases hcase with ⟨previous, -, -, hrun⟩ | ⟨a, hresumes, startedAt, hrun⟩
  · rw [left_of_error hrun]
    obtain ⟨records, hrecalls⟩ := recalls_of_open hopens hrecorded
    exact fun options stream faults opened' hopened' => hrecalls.recovered hopened'
  · have hlasting := lasting_of_resumes hname hfaultless hopens hresumes hrecorded
    have hacts := hlasting.acts (settled_calms startedAt a).related
    cases hsettle : (do settle startedAt a; persistCluster : AgentOp Unit) a with
    | mk result a' =>
      rw [hsettle] at hrun hacts
      cases result with
      | error status =>
        rw [left_of_error hrun]
        exact hacts.remembers
      | ok u =>
        obtain ⟨events, hleft⟩ := left_of_ok hrun
        rw [hleft]
        exact (hacts.run events).remembers

/-- An agent that presents a generation has resumed with it, and it is recorded from then on. -/
lemma presents_cases {g : Generation} (h : life.presents files = .ok g) :
    Remembers cluster (some g) (life.left files) ∧
      ∃ opened a, life.opens files = .ok opened ∧ Resumes (begun (life.loads files opened)) a ∧ a.generation = g := by
  unfold Life.presents at h
  rcases opening_cases life files with ⟨status, a, hrun, -, -⟩ | ⟨opened, hopens, hcase⟩
  · rw [hrun] at h
    cases h
  rcases hcase with ⟨previous, -, -, hrun⟩ | ⟨a, hresumes, startedAt, hrun⟩
  · rw [hrun] at h
    cases h
  have hnone : Recorded none (find opened.recovery.registry (.cluster cluster)) := fun g hg => by cases hg
  have hlasts := settled_lasts startedAt a (lasting_of_resumes hname hfaultless hopens hresumes hnone)
  cases hsettle : (do settle startedAt a; persistCluster : AgentOp Unit) a with
  | mk result a' =>
    rw [hsettle] at hrun
    rw [hrun] at h
    cases result with
    | error status => cases h
    | ok u =>
      obtain ⟨hgeneration, hlasting⟩ := hlasts.returns () (by rw [hsettle])
      rw [hsettle] at hgeneration hlasting
      cases h
      obtain ⟨events, hleft⟩ := left_of_ok hrun
      rw [hleft, hgeneration]
      exact ⟨(hlasting.run events).remembers, opened, a, hopens, hresumes, rfl⟩

/-- An agent presents a generation beyond every one that the files remember. -/
lemma presents_beyond {known g : Generation} (hknown : Remembers cluster (some known) files)
    (h : life.presents files = .ok g) (hbound : g.value.toNat < 2 ^ 62) : known < g := by
  obtain ⟨-, opened, a, hopens, hresumes, rfl⟩ := presents_cases hname hfaultless h
  obtain ⟨record, hfind, hle⟩ := hknown _ _ _ opened hopens known rfl
  have hfound : (begun (life.loads files opened)).registry.clusters[(begun (life.loads files opened)).cluster]? =
      some record := by
    show opened.recovery.registry.clusters[life.launch.config.cluster]? = some record
    rw [hname]
    simpa [find] using hfind
  exact Counter.lt_of_le_of_lt hle (hresumes.beyond hbound hfound)

end Lives

/-! The claim of the restart: every start of a run. -/

/-- A property of every start of the lives that follow one another on the files. -/
def EachStart (P : Life → Files → Prop) : Files → List Life → Prop
  | _, [] => True
  | files, life :: rest => P life files ∧ EachStart P (life.left files) rest

/-- The directory opens, and what it has recorded of the cluster is not of a later generation than the one
that is configured. -/
def Resumable (life : Life) (files : Files) : Prop :=
  ∃ opened, life.opens files = .ok opened ∧
    ∀ record, opened.recovery.registry.clusters[life.launch.config.cluster]? = some record →
      record.generation ≤ life.launch.config.generation

/-- The start gets past the record of its cluster, unless a bound is in its way. -/
def Succeeds (life : Life) (files : Files) : Prop :=
  (∃ g, life.presents files = .ok g) ∨ ∃ status, life.presents files = .error status ∧ AtBound status

lemma resumes_config {a a' : Agent} (h : Resumes a a') : a'.config = a.config := by
  cases h <;> rfl

lemma succeeds_of_resumable {life : Life} {files : Files} (hfaultless : ∀ i, (life.launch.moments i).append = none)
    (hdeclared : Declared life.launch.config) (h : Resumable life files) : Succeeds life files := by
  obtain ⟨opened, hopens, hle⟩ := h
  rcases opening_cases life files with ⟨status, a, -, -, ⟨fault, hfault⟩ | ⟨fault, hfault⟩⟩ | ⟨opened', hopens', hcase⟩
  · rw [hdeclared.checked] at hfault
    cases hfault
  · rw [hopens] at hfault
    cases hfault
  rw [hopens, Except.ok.injEq] at hopens'
  subst hopens'
  rcases hcase with ⟨previous, hfound, hlt, -⟩ | ⟨a, hresumes, startedAt, hrun⟩
  · have hle' := hle previous hfound
    rw [Counter.le_iff] at hle'
    rw [Counter.lt_iff] at hlt
    omega
  have hconfig : a.config = life.launch.config := resumes_config hresumes
  obtain ⟨hname, hdomain⟩ : life.launch.config.cluster.value ≠ [] ∧ life.launch.config.domain.value ≠ [] := by
    have hchecked := hdeclared.checked
    simp only [checkConfig, rejectIf_bind_eq_ok, name_isEmpty_iff] at hchecked
    exact ⟨hchecked.1, hchecked.2.1⟩
  have hproceeds : Proceeds (do settle startedAt a; persistCluster : AgentOp Unit) a := by
    refine Proceeds.bind (settle_calms startedAt a) (settle_proceeds startedAt a) fun _ a₁ h₁ _ => ?_
    have hconfig₁ : a₁.config = life.launch.config := (config_of_calm h₁).trans hconfig
    refine persistCluster_proceeds ?_ ?_ ?_
    · rw [hconfig₁]
      exact hname
    · rw [hconfig₁]
      exact hdomain
    · rw [hconfig₁]
      exact hdeclared.distinct
  have hmoments : ∀ i, (a.moments i).append = none := by
    have hsame : a.moments = life.launch.moments := by cases hresumes <;> rfl
    rw [hsame]
    exact hfaultless
  have hbounds := hproceeds hmoments
  unfold Succeeds Life.presents
  rw [hrun]
  cases hsettle : (do settle startedAt a; persistCluster : AgentOp Unit) a with
  | mk result a' =>
    rw [hsettle] at hbounds
    cases result with
    | ok u => exact .inl ⟨a'.generation, rfl⟩
    | error status => exact .inr ⟨status, rfl, hbounds status rfl⟩

/-- The agents go on beyond every generation that the files remember. -/
lemma generations_beyond {cluster : ClusterId} {lives : List Life} {files : Files} {known : Generation}
    (hname : ∀ life ∈ lives, life.launch.config.cluster = cluster)
    (hfaultless : ∀ life ∈ lives, ∀ i, (life.launch.moments i).append = none)
    (hbound : ∀ g ∈ generations files lives, g.value.toNat < 2 ^ 62) (h : Remembers cluster (some known) files) :
    ∀ g ∈ generations files lives, known < g := by
  induction lives generalizing files with
  | nil => simp [generations]
  | cons life rest ih =>
    intro g hg
    have hlife : life.launch.config.cluster = cluster := hname life (by simp)
    have hfault := hfaultless life (by simp)
    rcases List.mem_append.mp hg with hhead | hrest
    · refine presents_beyond hlife hfault h ?_ (hbound g hg)
      cases hpresents : life.presents files with
      | error status => simp [hpresents, Except.toOption] at hhead
      | ok g' =>
        simp only [hpresents, Except.toOption, Option.toList_some, List.mem_singleton] at hhead
        rw [hhead]
    · exact ih (fun l hl => hname l (by simp [hl])) (fun l hl => hfaultless l (by simp [hl]))
        (fun g hg => hbound g (List.mem_append_right _ hg)) (remembers_left hlife hfault h) g hrest

/-- A start that is configured behind what is on record presents nothing. -/
lemma stale_refused {life : Life} {files : Files} {opened : Opened} {record : ClusterRecord}
    (hopens : life.opens files = .ok opened)
    (hfound : opened.recovery.registry.clusters[life.launch.config.cluster]? = some record)
    (hlt : life.launch.config.generation < record.generation) (g : Generation) : life.presents files ≠ .ok g := by
  intro hpresents
  unfold Life.presents at hpresents
  rcases opening_cases life files with ⟨status, a, hrun, -, -⟩ | ⟨opened', hopens', hcase⟩
  · rw [hrun] at hpresents
    cases hpresents
  rw [hopens, Except.ok.injEq] at hopens'
  subst hopens'
  rcases hcase with ⟨previous, -, -, hrun⟩ | ⟨a, hresumes, startedAt, hrun⟩
  · rw [hrun] at hpresents
    cases hpresents
  · have hnot : (begun (life.loads files opened)).registry.clusters[(begun (life.loads files opened)).cluster]? =
        some record := hfound
    cases hresumes with
    | fresh hnone =>
      rw [hnot] at hnone
      cases hnone
    | later previous hprevious hle =>
      rw [hnot, Option.some.injEq] at hprevious
      subst hprevious
      have hle' : record.generation ≤ life.launch.config.generation := hle
      rw [Counter.le_iff] at hle'
      rw [Counter.lt_iff] at hlt
      omega

/-- Agents of one cluster that follow one another on one directory present ever greater generations. A start
whose configured generation is not behind the one on record succeeds, unless the log or the registry is at a
bound; a start that is configured behind it never does. -/
theorem restarts_present_later (cluster : ClusterId) (files : Files) (lives : List Life)
    (hname : ∀ life ∈ lives, life.launch.config.cluster = cluster)
    (hfaultless : ∀ life ∈ lives, ∀ i, (life.launch.moments i).append = none)
    (hdeclared : ∀ life ∈ lives, Declared life.launch.config)
    (hresumable : EachStart Resumable files lives)
    (hbound : ∀ g ∈ generations files lives, g.value.toNat < 2 ^ 62) :
    EachStart Succeeds files lives ∧ (generations files lives).Pairwise (· < ·) ∧
      ∀ (life : Life) files opened record, life.opens files = .ok opened →
        opened.recovery.registry.clusters[life.launch.config.cluster]? = some record →
        life.launch.config.generation < record.generation → ∀ g, life.presents files ≠ .ok g := by
  suffices h : EachStart Succeeds files lives ∧ (generations files lives).Pairwise (· < ·) from
    ⟨h.1, h.2, fun life files opened record hopens hfound hlt => stale_refused hopens hfound hlt⟩
  induction lives generalizing files with
  | nil => exact ⟨trivial, List.Pairwise.nil⟩
  | cons life rest ih =>
    have hlife : life.launch.config.cluster = cluster := hname life (by simp)
    have hfault := hfaultless life (by simp)
    have hname' : ∀ l ∈ rest, l.launch.config.cluster = cluster := fun l hl => hname l (by simp [hl])
    have hfaultless' : ∀ l ∈ rest, ∀ i, (l.launch.moments i).append = none := fun l hl => hfaultless l (by simp [hl])
    have hbound' : ∀ g ∈ generations (life.left files) rest, g.value.toNat < 2 ^ 62 :=
      fun g hg => hbound g (List.mem_append_right _ hg)
    obtain ⟨hsucceed, hpairwise⟩ := ih (life.left files) hname' hfaultless' (fun l hl => hdeclared l (by simp [hl]))
      hresumable.2 hbound'
    refine ⟨⟨succeeds_of_resumable hfault (hdeclared life (by simp)) hresumable.1, hsucceed⟩, ?_⟩
    refine List.pairwise_append.mpr ⟨?_, hpairwise, fun g hg later hlater => ?_⟩
    · cases (life.presents files).toOption <;> simp
    · have hpresents : life.presents files = .ok g := by
        cases hresult : life.presents files with
        | error status => simp [hresult, Except.toOption] at hg
        | ok g' =>
          simp only [hresult, Except.toOption, Option.toList_some, List.mem_singleton] at hg
          rw [hg]
      exact generations_beyond hname' hfaultless' hbound' (presents_cases hlife hfault hpresents).1 later hlater

/-! One configuration, started again and again. -/

def sampleLife : Life := { launch := agentLaunch, events := [.tick .inUse] }

lemma sampleLife_declared : Declared sampleLife.launch.config where
  checked := by decide +kernel
  distinct := by decide

/-- An agent that presents a generation could resume. -/
lemma resumable_of_presents {life : Life} {files : Files} (hfaultless : ∀ i, (life.launch.moments i).append = none)
    {g : Generation} (h : life.presents files = .ok g) : Resumable life files := by
  obtain ⟨-, opened, a, hopens, hresumes, -⟩ := presents_cases rfl hfaultless h
  refine ⟨opened, hopens, fun record hfound => ?_⟩
  have hregistered : (begun (life.loads files opened)).registry.clusters[(begun (life.loads files opened)).cluster]? =
      some record := hfound
  cases hresumes with
  | fresh hnone =>
    rw [hregistered] at hnone
    cases hnone
  | later previous hprevious hle =>
    rw [hregistered, Option.some.injEq] at hprevious
    rw [hprevious]
    exact hle

lemma presents_of_toOption {life : Life} {files : Files} {g : Generation}
    (h : (life.presents files).toOption = some g) : life.presents files = .ok g := by
  cases hpresents : life.presents files with
  | error status => simp [hpresents, Except.toOption] at h
  | ok g' =>
    simp only [hpresents, Except.toOption, Option.some.injEq] at h
    rw [h]

set_option maxRecDepth 20000 in
/-- What the starts present. -/
lemma sampleLife_presents : (sampleLife.presents {}).toOption = some ⟨1⟩ ∧
    (sampleLife.presents (sampleLife.left {})).toOption = some ⟨2⟩ := by
  decide +kernel

/-- The second start on the directory presents the next generation. -/
theorem restarts_present_later_sample :
    generations {} [sampleLife, sampleLife] = [⟨1⟩, ⟨2⟩] ∧
      (generations {} [sampleLife, sampleLife]).Pairwise (· < ·) := by
  obtain ⟨hfirst, hsecond⟩ := sampleLife_presents
  have hgenerations : generations {} [sampleLife, sampleLife] = [⟨1⟩, ⟨2⟩] := by
    simp [generations, hfirst, hsecond]
  have hsame : ∀ life ∈ [sampleLife, sampleLife], life = sampleLife := by simp
  refine ⟨hgenerations, (restarts_present_later agentLaunch.config.cluster {} [sampleLife, sampleLife]
    (fun life hlife => by rw [hsame life hlife]; rfl) (fun life hlife i => by rw [hsame life hlife]; rfl)
    (fun life hlife => by rw [hsame life hlife]; exact sampleLife_declared) ⟨?_, ?_, trivial⟩ fun g hg => ?_).2.1⟩
  · exact resumable_of_presents (fun _ => rfl) (presents_of_toOption hfirst)
  · exact resumable_of_presents (fun _ => rfl) (presents_of_toOption hsecond)
  · rw [hgenerations] at hg
    simp only [List.mem_cons, List.not_mem_nil, or_false] at hg
    rcases hg with rfl | rfl <;> decide

/-- The third start with one configuration is refused: the generation on record has gone past it. -/
theorem third_start_refused :
    ¬∀ lives : List Life, (∀ life ∈ lives, life.launch = agentLaunch) →
      EachStart (fun life files => ∃ g, life.presents files = .ok g) {} lives := by
  intro h
  obtain ⟨-, -, ⟨g, hg⟩, -⟩ := h [sampleLife, sampleLife, sampleLife] (by simp [sampleLife])
  have hpresents := presents_of_toOption sampleLife_presents.2
  obtain ⟨hremembers, -⟩ := presents_cases rfl (fun _ => rfl) hpresents
  obtain ⟨-, opened, -, hopens, -⟩ := presents_cases rfl (fun _ => rfl) hg
  obtain ⟨record, hfind, hle⟩ := hremembers _ _ _ opened hopens ⟨2⟩ rfl
  have hlt : (⟨1⟩ : Generation) < ⟨2⟩ := by decide
  rw [Counter.lt_iff] at hlt
  rw [Counter.le_iff] at hle
  exact stale_refused hopens (by simpa [find] using hfind) (Counter.lt_iff.mpr (hlt.trans_le hle)) g hg

end InterClusterFabric.RuntimeGenerations
