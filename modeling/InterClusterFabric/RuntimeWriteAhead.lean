import InterClusterFabric.RuntimeTerms
import InterClusterFabric.RuntimeTopology
import InterClusterFabric.StoreLatest

/-! What a decision rests on is on disk. A grant that can be used, and every reservation, has its last record in the
snapshot and the log of the process, as long as no append of a step that commits grants fails. -/
namespace InterClusterFabric.RuntimeWriteAhead
open CoreStatus CoreIds CoreTime CoreHash ModelRecords ModelRegistry ModelRegistryLaws EngineDecision EngineSoundness
open RuntimeFencing StoreMutation StoreWal StoreReplay StoreJournal StoreLatest WireMessages
open RuntimeCoordinator RuntimeHandlers RuntimeAdmin RuntimeRun RuntimeEdits RuntimeSteps RuntimeStepsHandlers
open RuntimeStepsAdmin RuntimeStart RuntimeRecovery RuntimeAuthorities LibraryChecked LibraryOrdMap LibraryProgram Relation
open StoreDurable hiding loadState
open EngineAuthorities (listsOrdered_of_wellFormed)

/-- A grant that can be used, under the attempt. -/
def UsableAs (attempt : AttemptId) : Record → Prop
  | .grant grant => grant.usableState = true ∧ grant.bothAcknowledged = true ∧ grant.attempt = attempt
  | _ => False

/-- The reservation, perhaps before it was released. -/
def ReservedAs (reservation : ReservationRecord) : Record → Prop
  | .reservation r => r.grant = reservation.grant ∧ r.cluster = reservation.cluster ∧
      r.endpoint = reservation.endpoint ∧ r.amount = reservation.amount ∧
      (r.released = true → reservation.released = true)
  | _ => False

/-- The grants that can be used and the reservations of the registry are on disk; such a grant has its contract. -/
structure Backing (registry : Registry) (files : Files) : Prop where
  formed : WellFormed registry
  log : ∃ entries, Holds files entries
  anchored : ∀ (id : GrantId) grant, registry.grants[id]? = some grant → grant.usableState = true →
    grant.contract ∈ registry.contracts
  grants : ∀ (id : GrantId) grant, registry.grants[id]? = some grant → grant.usableState = true →
    grant.bothAcknowledged = true → Durable (.grant id) (UsableAs grant.attempt) files
  reservations : ∀ (id : ReservationId) reservation, registry.reservations[id]? = some reservation →
    Durable (.reservation id) (ReservedAs reservation) files

/-- No append leaves part of its record behind when it fails. -/
def Whole (moments : ℕ → Moment) : Prop := ∀ i, Clean (moments i).append

structure Backed (s : Coordinator) : Prop where
  whole : Whole s.moments
  backing : Backing s.registry s.files

/-! Writes to the store. -/

section Store

variable {registry : Registry} {files : Files} {ground : Ground} {disk disk' : Disk}

/-- A record that is logged as it is, is the one under its key. -/
lemma find_of_coherent (hformed : WellFormed registry) {r : Record} (h : Coherent registry (putMutation r)) :
    find registry r.key = some r := by
  have hsound (key : Key) (hfind : find registry key = some r) : find registry r.key = some r := by
    rw [(hformed.sound key r hfind).1]
    exact hfind
  cases r with
  | cluster record => exact h.elim fun key hkey => hsound (.cluster key) (by simp [find, hkey])
  | link record => exact h.elim fun key hkey => hsound (.link key) (by simp [find, hkey])
  | path record => exact h.elim fun key hkey => hsound (.path key) (by simp [find, hkey])
  | policy record => exact h.elim fun key hkey => hsound (.policy key) (by simp [find, hkey])
  | contract record => exact h.elim fun key hkey => hsound (.contract key) (by simp [find, hkey])
  | grant record => exact h.elim fun key hkey => hsound (.grant key) (by simp [find, hkey])
  | reservation record => exact h.elim fun key hkey => hsound (.reservation key) (by simp [find, hkey])

lemma holds_stores (hwhole : Whole ground.moments) (hstores : Stores ground disk disk')
    (h : ∃ entries, Holds disk.files entries) : ∃ entries, Holds disk'.files entries := by
  obtain ⟨entries, h⟩ := h
  cases hstores with
  | ask => exact ⟨entries, h⟩
  | append mutation writtenAt _ => exact h.write_holds _ _ _ _ (hwhole _)
  | term incarnation writtenAt => exact h.write_holds _ _ _ _ (hwhole _)
  | incident text writtenAt =>
    unfold DurableStore.appendIncident
    split
    · exact ⟨entries, h⟩
    · exact h.write_holds _ _ _ _ (hwhole _)
  | compact storeMeta writtenAt stream _ => exact h.compact _ _ _ _ _ _ _

/-- What is on disk of a record of the registry stays there, whatever the process does to its store. -/
lemma durable_stores {key : Key} {P : Record → Prop} {r : Record} (hkey : Distinct key)
    (hwhole : Whole ground.moments) (hformed : WellFormed ground.registry) (hfind : find ground.registry key = some r)
    (hP : P r) (hstores : Stores ground disk disk') (h : Durable key P disk.files) : Durable key P disk'.files := by
  cases hstores with
  | ask => exact h
  | append mutation writtenAt hcoherent =>
    refine h.write _ (hwhole _) fun other hother hputs => ?_
    obtain ⟨r', hr', rfl⟩ := puts_mutation hkey hother hputs
    have hlive := find_of_coherent hformed hcoherent
    rw [hr', hfind, Option.some.injEq] at hlive
    exact ⟨r', hr', ⟨rfl, rfl⟩, by rw [← hlive]; exact hP⟩
  | term incarnation writtenAt =>
    refine h.write _ (hwhole _) fun other hother hputs => ?_
    obtain ⟨r', -, hr'⟩ := puts_mutation hkey hother hputs
    cases r' <;> cases hr'
  | incident text writtenAt =>
    unfold DurableStore.appendIncident
    split
    · exact h
    · exact h.write _ (hwhole _) fun _ _ hputs => by cases hputs.1
  | compact storeMeta writtenAt stream _ => exact h.compact _ hformed hfind hP _ _ _ _ _

lemma Backing.stores (hwhole : Whole ground.moments) (hstores : Stores ground disk disk')
    (h : Backing ground.registry disk.files) : Backing ground.registry disk'.files where
  formed := h.formed
  log := holds_stores hwhole hstores h.log
  anchored := h.anchored
  grants id grant hgrant husable hacks :=
    durable_stores (distinct_grant id) hwhole h.formed (r := .grant grant) (by simp [find, hgrant])
      ⟨husable, hacks, rfl⟩ hstores (h.grants id grant hgrant husable hacks)
  reservations id reservation hreservation :=
    durable_stores (distinct_reservation id) hwhole h.formed (r := .reservation reservation)
      (by simp [find, hreservation]) ⟨rfl, rfl, rfl, rfl, fun hreleased => hreleased⟩ hstores
      (h.reservations id reservation hreservation)

end Store

lemma Backed.kept {s s' : Coordinator} (h : Backed s) (hkept : Kept s s') : Backed s' := by
  have hpath {disk : Disk} (hdisk : ReflTransGen (Stores (groundOf s)) (diskOf s) disk) :
      Backing s.registry disk.files := by
    induction hdisk with
    | refl => exact h.backing
    | tail _ hstores ih => exact ih.stores h.whole hstores
  refine ⟨?_, ?_⟩
  · rw [hkept.moments]
    exact h.whole
  · rw [hkept.registry]
    exact hpath hkept.disk

/-! Changes that commit nothing. -/

/-- No grant is committed or acknowledged in the scene. -/
structure Still (scene : Scene) : Prop where
  settles : ¬scene.settles
  completes : ∀ id, ¬scene.completes id
  acknowledges : ∀ grant side, ¬scene.acknowledges grant side

/-- The grants that the scene issues or strands cannot be used. -/
def Idle (scene : Scene) (registry : Registry) : Prop :=
  ∀ id, scene.issues id ∨ scene.strands id → ∀ grant, registry.grants[id]? = some grant → grant.usableState = false

lemma quiet_still : Still quiet := ⟨id, fun _ => id, fun _ _ => id⟩

lemma quiet_idle (registry : Registry) : Idle quiet registry := by
  intro id h
  rcases h with h | h
  · cases h
  · cases h

section Edits

variable {scene : Scene} {registry next : Registry} {files : Files}

/-- A grant that can be used after a move could be used before it, under the same attempt. -/
lemma move_usable (hstill : Still scene) {grant next : GrantRecord}
    (hidle : scene.strands grant.id → grant.usableState = false) (hmove : Move scene grant next)
    (husable : next.usableState = true) :
    grant.usableState = true ∧ next.acknowledged = grant.acknowledged ∧ next.attempt = grant.attempt ∧
      next.contract = grant.contract := by
  cases hmove with
  | digest side value => exact ⟨husable, rfl, rfl, rfl⟩
  | acknowledge side value hscene => exact absurd hscene (hstill.acknowledges _ _)
  | commit now hacks hstate =>
    rcases hstate with ⟨hsettles, -⟩ | ⟨hcompletes, -⟩
    · exact absurd hsettles hstill.settles
    · exact absurd hcompletes (hstill.completes _)
  | revalidate _ _ _ _ _ _ hstate _ => simp [GrantRecord.usableState, hstate] at husable
  | strand _ _ hstrands _ _ _ _ hstate =>
    rw [GrantRecord.usableState, hstate] at husable
    have hunusable := hidle hstrands
    rw [GrantRecord.usableState, husable] at hunusable
    cases hunusable
  | fence => cases husable
  | abort => cases husable
  | suspend => cases husable
  | prepare => cases husable
  | expire => cases husable

/-- A grant that can be used after an edit was there before it. -/
lemma edit_usable (hformed : WellFormed registry) (hstill : Still scene) (hidle : Idle scene registry)
    (hedit : Edit scene registry next) {id : GrantId} {grant : GrantRecord} (hgrant : next.grants[id]? = some grant)
    (husable : grant.usableState = true) :
    ∃ old, registry.grants[id]? = some old ∧ old.usableState = true ∧ grant.acknowledged = old.acknowledged ∧
      grant.attempt = old.attempt ∧ grant.contract = old.contract := by
  rcases edit_grants hedit id with hsame | ⟨old, new, hold, hnew, hmove⟩ | ⟨-, new, hnew, hstate, -⟩
  · rw [hsame] at hgrant
    exact ⟨grant, hgrant, husable, rfl, rfl, rfl⟩
  · rw [hnew, Option.some.injEq] at hgrant
    subst hgrant
    refine ⟨old, hold, move_usable hstill (fun hstrands => ?_) hmove husable⟩
    rw [(find_grant hformed hold).1] at hstrands
    exact hidle id (.inr hstrands) old hold
  · rw [hnew, Option.some.injEq] at hgrant
    subst hgrant
    simp [GrantRecord.usableState, hstate] at husable

lemma edit_idle (hformed : WellFormed registry) (hstill : Still scene) (hidle : Idle scene registry)
    (hedit : Edit scene registry next) : Idle scene next := by
  intro id hid grant hgrant
  by_contra husable
  rw [Bool.not_eq_false] at husable
  obtain ⟨old, hold, hbefore, -⟩ := edit_usable hformed hstill hidle hedit hgrant husable
  rw [hidle id hid old hold] at hbefore
  cases hbefore

lemma edit_keeps_contracts (hedit : Edit scene registry next) {id : ContractId} (h : id ∈ registry.contracts) :
    id ∈ next.contracts := by
  rw [mem_iff_isSome] at h ⊢
  rcases edit_contracts hedit id with hsame | ⟨_, _, -, hnext, -⟩ | ⟨_, hnext, -⟩
  · rw [hsame]
    exact h
  · simp [hnext]
  · simp [hnext]

lemma Backing.edit (hstill : Still scene) (hidle : Idle scene registry) (hedit : Edit scene registry next)
    (h : Backing registry files) : Backing next files where
  formed := edit_wellFormed h.formed hedit
  log := h.log
  anchored id grant hgrant husable := by
    obtain ⟨old, hold, hbefore, -, -, hcontract⟩ := edit_usable h.formed hstill hidle hedit hgrant husable
    rw [hcontract]
    exact edit_keeps_contracts hedit (h.anchored id old hold hbefore)
  grants id grant hgrant husable hacks := by
    obtain ⟨old, hold, hbefore, hsame, hattempt, -⟩ := edit_usable h.formed hstill hidle hedit hgrant husable
    rw [GrantRecord.bothAcknowledged, hsame] at hacks
    rw [hattempt]
    exact h.grants id old hold hbefore hacks
  reservations id reservation hreservation := by
    rcases edit_reservations h.formed hedit id with hsame | ⟨old, now, hold, hnext⟩ | hsettles
    · rw [hsame] at hreservation
      exact h.reservations id reservation hreservation
    · rw [hnext, Option.some.injEq] at hreservation
      subst hreservation
      refine (h.reservations id old hold).mono fun r hr => ?_
      cases r with
      | reservation r => exact ⟨hr.1, hr.2.1, hr.2.2.1, hr.2.2.2.1, fun _ => rfl⟩
      | _ => exact hr
    · exact absurd hsettles hstill.settles

end Edits

section Acts

variable {scene : Scene} {s s' : Coordinator} {registry : Registry} {files : Files}

/-- A mutation that puts no usable grant and no reservation of the registry elsewhere is logged. -/
lemma Backing.append (h : Backing registry files) (store : DurableStore) (m : Mutation) (writtenAt : Timestamp)
    {fault : AppendFault} (hclean : Clean fault)
    (hgrant : ∀ grant, m = .grantPut grant → ∀ g, registry.grants[grant.id]? = some g → g.usableState = false)
    (hreservation : ∀ reservation, m ≠ .reservationPut reservation) :
    Backing registry (store.append files m writtenAt fault).files where
  formed := h.formed
  log := h.log.elim fun _ hholds => hholds.write_holds _ _ _ _ hclean
  anchored := h.anchored
  grants id grant hfind husable hacks := by
    refine (h.grants id grant hfind husable hacks).write _ hclean fun r hr hputs => ?_
    obtain ⟨r', hr', rfl⟩ := puts_mutation (distinct_grant id) hr hputs
    cases r' <;> simp only [Record.key, reduceCtorEq, Key.grant.injEq] at hr'
    subst hr'
    rw [hgrant _ rfl grant hfind] at husable
    cases husable
  reservations id reservation hfind := by
    refine (h.reservations id reservation hfind).write _ hclean fun r hr hputs => ?_
    obtain ⟨r', hr', rfl⟩ := puts_mutation (distinct_reservation id) hr hputs
    cases r' <;> simp only [Record.key, reduceCtorEq] at hr'
    exact absurd rfl (hreservation _)

lemma Backed.act (hstill : Still scene) (hidle : Idle scene s.registry) (h : Backed s) (hact : Act scene s s') :
    Backed s' := by
  cases hact with
  | keep hkept => exact h.kept hkept
  | edit hedit => exact ⟨h.whole, h.backing.edit hstill hidle hedit⟩
  | announce grant hscene hstate hacks writtenAt =>
    refine ⟨h.whole, h.backing.append _ _ _ (h.whole _) (fun other hother g hg => ?_) fun _ hno => by cases hno⟩
    cases hother
    exact hidle _ (.inl hscene) g hg
  | _ => exact ⟨h.whole, h.backing⟩

lemma act_idle (hstill : Still scene) (hformed : WellFormed s.registry) (hidle : Idle scene s.registry)
    (hact : Act scene s s') : Idle scene s'.registry := by
  cases hact with
  | keep hkept =>
    rw [hkept.registry]
    exact hidle
  | edit hedit => exact edit_idle hformed hstill hidle hedit
  | _ => exact hidle

/-- Whatever happens in a still scene, failed appends among it, what is used stays on disk. -/
lemma Backed.within (hstill : Still scene) (hidle : Idle scene s.registry) (h : Backed s)
    (hwithin : Within scene s s') : Backed s' := by
  have hall (t : Coordinator) (hacts : ReflTransGen (Act scene) s t) : Backed t ∧ Idle scene t.registry := by
    induction hacts with
    | refl => exact ⟨h, hidle⟩
    | tail _ hact ih => exact ⟨ih.1.act hstill ih.2 hact, act_idle hstill ih.1.backing.formed ih.2 hact⟩
  exact (hall s' hwithin.acts).1

end Acts

/-! How many operations of the store have failed. -/

lemma after_failures {α : Type} (disk : Disk) (written : Written α) :
    disk.failures ≤ (disk.after written).failures := by
  unfold Disk.after
  dsimp only
  split
  · exact le_rfl
  · exact Nat.le_succ _

lemma stores_failures {ground : Ground} {disk disk' : Disk} (h : Stores ground disk disk') :
    disk.failures ≤ disk'.failures := by
  cases h with
  | ask => exact le_rfl
  | append mutation writtenAt _ => exact after_failures disk _
  | term incarnation writtenAt => exact after_failures disk _
  | incident text writtenAt => exact after_failures disk _
  | compact storeMeta writtenAt stream _ => exact after_failures disk _

lemma kept_failures {s s' : Coordinator} (h : Kept s s') : s.failures ≤ s'.failures := by
  have hpath {disk : Disk} (hdisk : ReflTransGen (Stores (groundOf s)) (diskOf s) disk) :
      s.failures ≤ disk.failures := by
    induction hdisk with
    | refl => exact le_rfl
    | tail _ hstores ih => exact ih.trans (stores_failures hstores)
  exact hpath h.disk

lemma within_failures {scene : Scene} {s s' : Coordinator} (h : Within scene s s') : s.failures ≤ s'.failures := by
  have hall (t : Coordinator) (hacts : ReflTransGen (Act scene) s t) : s.failures ≤ t.failures := by
    induction hacts with
    | refl => exact le_rfl
    | tail _ hact ih =>
      refine ih.trans ?_
      cases hact with
      | keep hkept => exact kept_failures hkept
      | announce grant hscene hstate hacks writtenAt => exact after_failures (diskOf _) _
      | _ => exact le_rfl
  exact hall s' h.acts

/-- The process goes on, and what was used and on disk still is, unless an operation of the store has failed. -/
structure Stays (s s' : Coordinator) : Prop where
  failures : s.failures ≤ s'.failures
  formed : WellFormed s.registry → WellFormed s'.registry
  backed : Backed s → s'.failures = s.failures → Backed s'

instance : Std.Refl Stays := ⟨fun _ => ⟨le_rfl, fun h => h, fun h _ => h⟩⟩

instance : IsTrans Coordinator Stays where
  trans _ _ _ h h' := by
    refine ⟨h.failures.trans h'.failures, fun hformed => h'.formed (h.formed hformed), fun hbacked hsame => ?_⟩
    have hfirst := h.failures
    have hsecond := h'.failures
    exact h'.backed (h.backed hbacked (by omega)) (by omega)

lemma stays_of_quiet {s s' : Coordinator} (h : Within quiet s s') : Stays s s' :=
  ⟨within_failures h, h.formed, fun hbacked _ => hbacked.within quiet_still (quiet_idle _) h⟩

lemma stays_of_does {α : Type} {p : Op α} {s : Coordinator} {Q : α → Coordinator → Prop} (h : Does quiet p s Q) :
    Steps Stays p s Q :=
  (h.weaken fun _ => stays_of_quiet).mono fun _ _ hQ => hQ.2

lemma stays_of_keeps {α : Type} {p : Op α} {s : Coordinator} (h : Steps Kept p s fun _ _ => True) :
    Steps Stays p s fun _ s' => s'.registry = s.registry :=
  (h.weaken fun _ hkept => stays_of_quiet hkept.within).mono fun _ _ hQ => hQ.1.registry

/-! A record is put and then logged. -/

section Put

variable {s : Coordinator} {registry : Registry} {files : Files} {record : Record}

lemma store_keeps_contracts (registry : Registry) (record : Record) {id : ContractId} (h : id ∈ registry.contracts) :
    id ∈ (store registry record).contracts := by
  cases record with
  | contract r => exact Std.ExtTreeMap.mem_insert.mpr (.inr h)
  | _ => exact h

/-- A grant that is put and can be used has its contract. -/
def Anchors (registry : Registry) : Record → Prop
  | .grant grant => grant.usableState = true → grant.contract ∈ registry.contracts
  | _ => True

lemma Backing.put (h : Backing registry files) (hformed : WellFormed (store registry record))
    (hanchors : Anchors registry record) {entry : LogRecord} (hentry : Appendable none entry)
    (hputs : Puts record entry) : Backing (store registry record) (extended files (frameRecord entry)) := by
  obtain ⟨entries, hholds⟩ := h.log
  -- of any other key the entry says nothing
  have hother {key : Key} (hdistinct : Distinct key) (hkey : key ≠ record.key) : ¬Tells key entry := by
    rintro ⟨r, hr, -, hpayload⟩
    rw [hputs.2] at hpayload
    obtain ⟨r', hr', hsame⟩ := hdistinct _ r hr hpayload
    rw [putMutation_injective hsame] at hkey
    exact hkey hr'.symm
  refine ⟨hformed, ⟨_, hholds.append hentry⟩, fun id grant hgrant husable => ?_,
    fun id grant hgrant husable hacks => ?_, fun id reservation hreservation => ?_⟩
  · have hfind : find (store registry record) (.grant id) = some (.grant grant) := by simp [find, hgrant]
    apply store_keeps_contracts
    rw [find_store] at hfind
    split at hfind
    · rw [Option.some.injEq] at hfind
      subst hfind
      exact hanchors husable
    · exact h.anchored id grant (by simpa [find] using hfind) husable
  · have hfind : find (store registry record) (.grant id) = some (.grant grant) := by simp [find, hgrant]
    rw [find_store] at hfind
    split at hfind
    · rename_i hkey
      rw [Option.some.injEq] at hfind
      subst hfind
      exact hholds.put hentry hkey.symm hputs ⟨husable, hacks, rfl⟩
    · rename_i hkey
      exact (h.grants id grant (by simpa [find] using hfind) husable hacks).append hentry
        (hother (distinct_grant id) hkey)
  · have hfind : find (store registry record) (.reservation id) = some (.reservation reservation) := by
      simp [find, hreservation]
    rw [find_store] at hfind
    split at hfind
    · rename_i hkey
      rw [Option.some.injEq] at hfind
      subst hfind
      exact hholds.put hentry hkey.symm hputs ⟨rfl, rfl, rfl, rfl, fun hreleased => hreleased⟩
    · rename_i hkey
      exact (h.reservations id reservation (by simpa [find] using hfind)).append hentry
        (hother (distinct_reservation id) hkey)

lemma append_run (m : Mutation) (s : Coordinator) : (appendMutation m s).2 = { s with
    store := (s.store.append s.files m (s.moments s.index).now (s.moments s.index).append).store
    files := (s.store.append s.files m (s.moments s.index).now (s.moments s.index).append).files
    failures := ((diskOf s).after (s.store.append s.files m (s.moments s.index).now
      (s.moments s.index).append)).failures
    index := s.index + 1 } := by
  have hrun : appendMutation m s = onStore (fun store files => store.append files m (s.moments s.index).now
      (s.moments s.index).append) { s with index := s.index + 1 } := rfl
  rw [hrun, onStore_state]
  rfl

/-- A record that has been put is logged: it is on disk, or the append has failed. -/
lemma appendPut_stays (hformed : WellFormed (store s.registry record)) (hanchors : Anchors s.registry record) :
    Stays s (appendMutation (putMutation record) { s with registry := store s.registry record }).2 := by
  rw [append_run]
  refine ⟨?_, fun _ => hformed, fun hbacked hsame => ⟨hbacked.whole, ?_⟩⟩
  · exact after_failures (diskOf s) _
  · obtain ⟨entries, hholds⟩ := hbacked.backing.log
    rcases hholds.write s.store .mutation (s.moments s.index).now (encodeMutation (putMutation record))
      (hbacked.whole s.index) with ⟨-, hentry, hfiles⟩ | ⟨⟨status, hstatus⟩, -⟩
    · have hbacking := hbacked.backing.put hformed hanchors hentry ⟨rfl, rfl⟩
      rw [← hfiles] at hbacking
      exact hbacking
    · -- the count says that the append has not failed
      have hfailed : ((diskOf s).after (s.store.append s.files (putMutation record) (s.moments s.index).now
          (s.moments s.index).append)).failures = s.failures + 1 := by
        unfold Disk.after
        dsimp only
        rw [show (s.store.append s.files (putMutation record) (s.moments s.index).now
          (s.moments s.index).append).result = .error status from hstatus]
        rfl
      have hcount : s.failures + 1 = s.failures := hfailed.symm.trans hsame
      omega

lemma append_registry (m : Mutation) (s : Coordinator) : (appendMutation m s).2.registry = s.registry := by
  rw [append_run]

/-- A registered grant is written back and logged. -/
lemma logGrant_stays (hformed : WellFormed s.registry) {id : GrantId} {grant next : GrantRecord}
    (hfind : s.registry.grants[id]? = some grant) (hid : next.id = grant.id)
    (hcontract : next.contract = grant.contract) (hcapacity : next.capacity = grant.capacity)
    (hanchors : next.usableState = true → next.contract ∈ s.registry.contracts) :
    Steps Stays (writeGrant id next >>= fun _ => appendMutation (.grantPut next)) s
      fun _ s' => s'.registry = setGrant s.registry id next := by
  have hstore := setGrant_eq_store hformed hfind hid
  have hwritten := setGrant_wellFormed hformed hfind hid hcontract hcapacity
  rw [hstore] at hwritten
  have hrun : (writeGrant id next >>= fun _ => appendMutation (.grantPut next) : Op Unit) s =
      appendMutation (putMutation (.grant next)) { s with registry := store s.registry (.grant next) } := by
    rw [← hstore]
    rfl
  refine ⟨?_, fun _ _ => ?_⟩
  · rw [hrun]
    exact appendPut_stays hwritten hanchors
  · rw [hrun, append_registry, hstore]

end Put

/-! The operations that commit. -/

section Commit

variable {s : Coordinator}

/-- Only clusters have changed. -/
lemma stays_of_clusters {clusters : OrdMap ClusterId ClusterRecord} (hformed : WellFormed { s.registry with clusters }) :
    Stays s { s with registry := { s.registry with clusters } } := by
  refine ⟨le_rfl, fun _ => hformed, fun h _ => ⟨h.whole, ?_⟩⟩
  exact ⟨hformed, h.backing.log, h.backing.anchored, h.backing.grants, h.backing.reservations⟩

/-- A new reservation is put and logged. -/
lemma logReservation_stays (hformed : WellFormed s.registry) (reservation : ReservationRecord) :
    Steps Stays (onRegistry (Program.update fun registry => registry.putReservation reservation) >>= fun _ =>
      appendMutation (.reservationPut reservation)) s fun _ s' =>
        s'.registry.grants = s.registry.grants ∧ s'.registry.contracts = s.registry.contracts := by
  cases hput : s.registry.putReservation reservation with
  | error status => exact Steps.of_run (Program.bind_error (onRegistry_error hput)) Steps.throw
  | ok next =>
    obtain ⟨hsound, hroom, rfl⟩ := putReservation_eq_ok.mp hput
    have hupdate : onRegistry (Program.update fun registry => registry.putReservation reservation) s =
        (.ok (), { s with registry := store s.registry (.reservation reservation) }) :=
      onRegistry_ok hput
    have hrun := Program.bind_ok (f := fun _ : Unit => appendMutation (.reservationPut reservation)) hupdate
    refine ⟨?_, fun _ _ => ?_⟩
    · rw [hrun]
      have hput : Stays s (appendMutation (putMutation (.reservation reservation))
          { s with registry := store s.registry (.reservation reservation) }).2 :=
        appendPut_stays (store_wellFormed hformed hsound hroom) trivial
      exact hput
    · rw [hrun, append_registry]
      exact ⟨rfl, rfl⟩

/-- A mutation that is neither a grant nor a reservation is logged. -/
lemma appendOther_stays {m : Mutation} (hgrant : ∀ grant, m ≠ .grantPut grant)
    (hreservation : ∀ reservation, m ≠ .reservationPut reservation) :
    Steps Stays (appendMutation m) s fun _ s' => s'.registry = s.registry := by
  refine ⟨?_, fun _ _ => append_registry m s⟩
  rw [append_run]
  refine ⟨?_, fun h => h, fun h _ => ⟨h.whole, ?_⟩⟩
  · exact after_failures (diskOf s) _
  · exact h.backing.append _ _ _ (h.whole _) (fun grant hm => absurd hm (hgrant grant)) hreservation

lemma reserveSide_stays (hformed : WellFormed s.registry) (grant : GrantRecord) (now : Timestamp) (party : PartyRef) :
    Steps Stays (reserveSide grant now party) s fun _ s' =>
      s'.registry.grants = s.registry.grants ∧ s'.registry.contracts = s.registry.contracts := by
  refine Steps.get_bind ?_
  split
  · exact Steps.throw
  rename_i cluster hcluster
  split
  · exact Steps.throw
  rename_i endpoint hendpoint
  dsimp only
  split
  · exact Steps.throw
  rename_i hroom
  have hname : endpoint.id = party.endpoint := by simpa using List.find?_some hendpoint
  obtain ⟨hkey, -⟩ := find_cluster hformed hcluster
  have hreserves : Reserves s.registry cluster endpoint { grant := grant.id, endpoint := endpoint.id
                                                          cluster := cluster.id, amount := grant.capacity } :=
    reserves_of_check hformed _ hcluster hendpoint hroom ⟨rfl, rfl⟩ rfl
  have hcharged := charged_wellFormed hformed hreserves
  rw [← hname, ← hkey]
  refine Steps.modify_bind (stays_of_clusters hcharged) ?_
  refine Steps.bind (stays_of_keeps random_keeps) fun id s₁ _ h₁ => ?_
  have hformed₁ : WellFormed s₁.registry := by
    rw [h₁]
    exact hcharged
  refine Steps.bind_assoc (logReservation_stays hformed₁ _) fun _ s₂ _ h₂ => ?_
  refine (appendOther_stays (by simp) (by simp)).mono fun _ s₃ h₃ => ?_
  rw [h₃, h₂.1, h₂.2, h₁]
  exact ⟨rfl, rfl⟩

lemma reserveCapacity_stays (hformed : WellFormed s.registry) (grant : GrantRecord) (now : Timestamp) :
    Steps Stays (reserveCapacity grant now) s fun _ s' =>
      (s'.registry.grants = s.registry.grants ∧ s'.registry.contracts = s.registry.contracts) ∧
        grant.contract ∈ s.registry.contracts := by
  refine Steps.get_bind ?_
  split
  · exact Steps.throw
  rename_i contract hcontract
  have hmem : grant.contract ∈ s.registry.contracts := by rw [mem_iff_isSome, hcontract]; rfl
  have hsides : Steps Stays (Program.forEach [contract.parties.first, contract.parties.second] (reserveSide grant now)) s
      fun _ s' => s'.registry.grants = s.registry.grants ∧ s'.registry.contracts = s.registry.contracts :=
    Steps.forEach ⟨rfl, rfl⟩ fun party _ s' hR hI =>
      (reserveSide_stays (hR.formed hformed) grant now party).mono fun _ s'' h => ⟨h.1.trans hI.1, h.2.trans hI.2⟩
  exact hsides.mono fun _ _ h => ⟨h, hmem⟩

lemma abortGrant_stays (id : GrantId) (reason : Bytes) : Steps Stays (abortGrant id reason) s fun _ _ => True :=
  stays_of_does (abortGrant_does id reason)

lemma appendAudit_stays (actor action : String) (subject : Bytes) (outcome : Outcome) (detail : Bytes) :
    Steps Stays (RuntimeCoordinator.appendAudit actor action subject outcome detail) s fun _ _ => True :=
  stays_of_does (appendAudit_does actor action subject outcome detail)

/-- The grant is committed once its reservations are on disk, and then logged itself. -/
lemma finaliseGrant_stays (hformed : WellFormed s.registry) (id : GrantId) (now : Timestamp) :
    Steps Stays (finaliseGrant id now) s fun _ _ => True := by
  refine Steps.get_bind ?_
  split
  · exact Steps.throw
  rename_i grant hfind
  split
  · exact Steps.pure trivial
  split
  · exact Steps.throw
  refine Steps.attempt_bind (reserveCapacity_stays hformed grant now) (fun _ s₁ hR₁ h₁ => ?_) fun status s₁ _ => ?_
  · obtain ⟨⟨hgrants, hcontracts⟩, hcontract⟩ := h₁
    rw [← hgrants] at hfind
    rw [← hcontracts] at hcontract
    refine Steps.bind_assoc (logGrant_stays (hR₁.formed hformed) hfind rfl rfl rfl fun _ => hcontract)
      fun _ s₂ _ _ => ?_
    refine Steps.modify_bind (stays_of_quiet within_count) ?_
    refine Steps.bind (stays_of_does (dropPending_does id)) fun _ s₃ _ _ => ?_
    exact appendAudit_stays _ _ _ _ _
  · exact Steps.bind (abortGrant_stays id _) fun _ _ _ _ => Steps.throw

lemma withSession_stays {connection : ℕ} {token : SessionToken} {body : PeerSession → Op Unit}
    (h : ∀ session, Steps Stays (body session) s fun _ _ => True) :
    Steps Stays (withSession connection token body) s fun _ _ => True := by
  refine Steps.get_bind ?_
  dsimp only
  split
  · exact stays_of_does (replay_error_does _ _ _ _)
  · exact h _

/-- The grant and its contract are there when the body of the handler runs. -/
lemma withGrant_stays {connection : ℕ} {session : PeerSession} {id : GrantId} {attempt : AttemptId}
    {body : GrantRecord → Side → Op Unit}
    (h : ∀ grant side, s.registry.grants[id]? = some grant → grant.contract ∈ s.registry.contracts →
      Steps Stays (body grant side) s fun _ _ => True) :
    Steps Stays (withGrant connection session id attempt body) s fun _ _ => True := by
  refine Steps.get_bind ?_
  dsimp only
  split
  · exact stays_of_does (sendError_does _ _ _ _)
  rename_i grant hgrant
  split
  · exact stays_of_does (sendError_does _ _ _ _)
  rename_i contract hcontract
  have hmem : grant.contract ∈ s.registry.contracts := by rw [mem_iff_isSome, hcontract]; rfl
  split
  · exact stays_of_does (sendError_does _ _ _ _)
  split
  · exact stays_of_does (replay_error_does _ _ _ _)
  split
  · exact stays_of_does (replay_error_does _ _ _ _)
  · exact h grant _ hgrant hmem

lemma onGrantCommitted_stays (hformed : WellFormed s.registry) (connection : ℕ) (message : GrantCommittedMessage) :
    Steps Stays (onGrantCommitted connection message) s fun _ _ => True := by
  refine withSession_stays fun session => withGrant_stays fun grant side hgrant hcontract => ?_
  split
  · exact Steps.bind (abortGrant_stays _ _) fun _ _ _ _ => appendAudit_stays _ _ _ _ _
  refine Steps.bind_assoc (logGrant_stays hformed hgrant rfl rfl rfl fun _ => hcontract) fun _ s₁ hR₁ _ => ?_
  split
  · refine Steps.bind (stays_of_keeps now_keeps) fun now s₂ hR₂ _ => ?_
    exact finaliseGrant_stays (hR₂.formed (hR₁.formed hformed)) grant.id now
  · exact Steps.pure trivial

lemma reconcile_stays (hformed : WellFormed s.registry) (session : PeerSession) (report : StatusReportMessage)
    (fence : List GrantId) (id : GrantId) : Steps Stays (reconcile session report fence id) s fun _ _ => True := by
  refine Steps.get_bind ?_
  dsimp only
  split
  · exact Steps.pure trivial
  rename_i grant hgrant
  split
  · exact Steps.pure trivial
  rename_i contract hcontract
  have hmem : grant.contract ∈ s.registry.contracts := by rw [mem_iff_isSome, hcontract]; rfl
  split
  · exact Steps.pure trivial
  split
  · split
    · exact Steps.pure trivial
    split
    · exact Steps.pure trivial
    split
    · exact Steps.pure trivial
    refine Steps.bind_assoc (logGrant_stays hformed hgrant rfl rfl rfl fun _ => hmem) fun _ _ _ _ => ?_
    exact Steps.pure trivial
  · split
    · refine Steps.bind_assoc (logGrant_stays hformed hgrant rfl rfl rfl fun _ => hmem) fun _ _ _ _ => ?_
      exact Steps.pure trivial
    · exact Steps.pure trivial

lemma finaliseInstalled_stays (hformed : WellFormed s.registry) (id : GrantId) :
    Steps Stays (finaliseInstalled id) s fun _ _ => True := by
  refine Steps.get_bind ?_
  split
  · exact Steps.pure trivial
  split
  · exact Steps.pure trivial
  refine Steps.bind (stays_of_keeps now_keeps) fun now s₁ hR₁ _ => ?_
  exact finaliseGrant_stays (hR₁.formed hformed) id now

lemma onStatusReport_stays (hformed : WellFormed s.registry) (connection : ℕ) (message : StatusReportMessage) :
    Steps Stays (onStatusReport connection message) s fun _ _ => True := by
  refine withSession_stays fun session => ?_
  refine Steps.modify_bind (stays_of_quiet within_count) (Steps.get_bind ?_)
  refine Steps.bind (Steps.foldEach (I := fun _ _ => True) trivial fun id _ fence s₁ hR₁ _ => ?_)
    fun fence s₂ hR₂ _ => Steps.get_bind ?_
  · exact reconcile_stays (hR₁.formed hformed) session message fence id
  refine Steps.bind (Steps.onlyIf (fun _ => stays_of_does (fencePlanApply_does _ _)) fun _ => trivial)
    fun _ s₃ hR₃ _ => ?_
  refine Steps.get_bind (Steps.forEach (I := fun _ => True) trivial fun id _ s₄ hR₄ _ => ?_)
  exact finaliseInstalled_stays (hR₄.formed (hR₃.formed (hR₂.formed hformed))) id

end Commit

/-! A grant is issued. Its identity may be that of a grant in use, which it then replaces. -/

/-- The process goes on, and what was used and on disk still is. -/
structure Backs (s s' : Coordinator) : Prop where
  formed : WellFormed s.registry → WellFormed s'.registry
  backed : Backed s → Backed s'

instance : Std.Refl Backs := ⟨fun _ => ⟨fun h => h, fun h => h⟩⟩

instance : IsTrans Coordinator Backs where
  trans _ _ _ h h' := ⟨fun hformed => h'.formed (h.formed hformed), fun hbacked => h'.backed (h.backed hbacked)⟩

section Issue

variable {s : Coordinator} {α : Type}

lemma backs_of_keeps {p : Op α} (h : Steps Kept p s fun _ _ => True) : Steps Backs p s fun _ _ => True :=
  (h.weaken fun s' hkept => ⟨(hkept.within : Within quiet s s').formed, fun hbacked => hbacked.kept hkept⟩).mono
    fun _ _ _ => trivial

/-- A grant that cannot be used is put. -/
lemma Backing.putUnusable {registry : Registry} {files : Files} (h : Backing registry files) {grant : GrantRecord}
    (hformed : WellFormed (store registry (.grant grant))) (hstate : grant.usableState = false) :
    Backing (store registry (.grant grant)) files := by
  have hold {id : GrantId} {g : GrantRecord} (hg : (store registry (.grant grant)).grants[id]? = some g)
      (husable : g.usableState = true) : registry.grants[id]? = some g := by
    change (registry.grants.insert grant.id grant)[id]? = some g at hg
    rw [getElem?_insert_eq] at hg
    split at hg
    · rw [Option.some.injEq] at hg
      subst hg
      rw [hstate] at husable
      cases husable
    · exact hg
  exact ⟨hformed, h.log, fun id g hg husable => h.anchored id g (hold hg husable) husable,
    fun id g hg husable hacks => h.grants id g (hold hg husable) husable hacks, h.reservations⟩

/-- A grant in preparation is put. -/
lemma putGrant_backs {grant : GrantRecord} (hstate : grant.state = .preparing) :
    Steps Backs (onRegistry (Program.update fun registry => registry.putGrant grant)) s fun _ s' =>
      ∀ g, s'.registry.grants[grant.id]? = some g → g.usableState = false := by
  have hunusable : grant.usableState = false := by simp [GrantRecord.usableState, hstate]
  cases hput : s.registry.putGrant grant with
  | error status => exact Steps.of_run (onRegistry_error hput) Steps.throw
  | ok next =>
    obtain ⟨hsound, hroom, rfl⟩ := putGrant_eq_ok.mp hput
    have hrun : onRegistry (Program.update fun registry => registry.putGrant grant) s =
        (.ok (), { s with registry := store s.registry (.grant grant) }) := onRegistry_ok hput
    refine ⟨?_, fun _ _ g hg => ?_⟩
    · rw [hrun]
      refine ⟨fun hformed => store_wellFormed hformed hsound hroom, fun h => ⟨h.whole, ?_⟩⟩
      exact h.backing.putUnusable (store_wellFormed h.backing.formed hsound hroom) hunusable
    · rw [hrun] at hg
      change (s.registry.grants.insert grant.id grant)[grant.id]? = some g at hg
      rw [Std.ExtTreeMap.getElem?_insert_self, Option.some.injEq] at hg
      rw [← hg]
      exact hunusable

/-- A scene that issues one grant. -/
def issuing (id : GrantId) : Scene := { quiet with issues := fun other => other = id }

lemma issuing_still (id : GrantId) : Still (issuing id) := ⟨fun h => h, fun _ h => h, fun _ _ h => h⟩

/-- Once the grant in preparation stands under its identity, it may be announced. -/
lemma prepareGrant_backs {grant : GrantRecord} (hacks : grant.acknowledged = ⟨false, false⟩)
    (hunusable : ∀ g, s.registry.grants[grant.id]? = some g → g.usableState = false) :
    Steps Backs (prepareGrant false grant) s fun _ _ => True := by
  have hidle : Idle (issuing grant.id) s.registry := by
    intro id hid g hg
    rcases hid with rfl | hno
    · exact hunusable g hg
    · exact hno.elim
  have hdoes : Does (issuing grant.id) (prepareGrant false grant) s fun _ _ => True :=
    prepareGrant_does hacks (fun _ => rfl) fun h => by cases h
  refine (hdoes.weaken fun s' hwithin => ⟨hwithin.formed, fun hbacked => ?_⟩).mono fun _ _ _ => trivial
  exact hbacked.within (issuing_still grant.id) hidle hwithin

lemma applyGrantIssue_backs (request : AdminMessage) :
    Steps Backs (applyGrantIssue request) s fun _ _ => True := by
  refine Steps.get_bind ?_
  split
  · exact Steps.throw
  split
  · exact Steps.throw
  refine Steps.bind (backs_of_keeps random_keeps) fun id s₁ _ _ => ?_
  refine Steps.bind (backs_of_keeps random_keeps) fun attempt s₂ _ _ => ?_
  dsimp only
  generalize hcapacity : (if request.capacity.value = 0 then _ else request.capacity) = capacity
  split
  · exact Steps.throw
  refine Steps.bind (backs_of_keeps now_keeps) fun issuedAt s₃ _ _ => ?_
  split
  · refine Steps.bind (putGrant_backs rfl) fun _ s₄ _ h₄ => ?_
    exact Steps.bind (prepareGrant_backs rfl h₄) fun _ _ _ _ => Steps.pure trivial
  · exact Steps.throw

end Issue

/-! Steps. -/

/-- No operation of the store fails while the step can commit a grant. -/
def Logged (s : Coordinator) (event : Event) : Prop :=
  (sceneOf s event).settles → (step s event).failures = s.failures

section Step

variable {s : Coordinator} {event : Event}

/-- A step that cannot commit acknowledges nothing and completes nothing. -/
lemma sceneOf_still (h : ¬(sceneOf s event).settles) : Still (sceneOf s event) where
  settles := h
  completes id hcompletes := by
    obtain ⟨connection, message, grant, hevent, -⟩ := hcompletes
    exact h ⟨connection, .inl ⟨message, hevent⟩⟩
  acknowledges grant side hconfirms := by
    rcases hconfirms with ⟨connection, message, session, hevent, -⟩ | ⟨connection, message, session, entry, hevent, -⟩
    · exact h ⟨connection, .inl ⟨message, hevent⟩⟩
    · exact h ⟨connection, .inr ⟨message, hevent⟩⟩

/-- A grant that is stranded has lost its contract, so it cannot be used. -/
lemma strands_unusable (h : Backed s) {id : GrantId} (hstrands : (sceneOf s event).strands id) {grant : GrantRecord}
    (hgrant : s.registry.grants[id]? = some grant) : grant.usableState = false := by
  obtain ⟨request, other, -, -, -, hother, -, hcontract⟩ := hstrands
  rw [hgrant, Option.some.injEq] at hother
  subst hother
  by_contra husable
  have hmem := h.backing.anchored id grant hgrant (by simpa using husable)
  rw [mem_iff_isSome, hcontract] at hmem
  cases hmem

lemma step_backed (hlogged : Logged s event) (h : Backed s) : Backed (step s event) := by
  by_cases hsettles : (sceneOf s event).settles
  · have hcount := hlogged hsettles
    obtain ⟨connection, ⟨message, rfl⟩ | ⟨message, rfl⟩⟩ := hsettles
    · exact (onGrantCommitted_stays h.backing.formed connection message).related.backed h hcount
    · exact (onStatusReport_stays h.backing.formed connection message).related.backed h hcount
  · by_cases hissues : ∃ request, Administers s event request ∧ request.action = .issueGrant
    · obtain ⟨request, hadmin, haction⟩ := hissues
      have hrun : (handleAdmin request s).2 = (applyGrantIssue request s).2 := by rw [handleAdmin, haction]
      have hkept := step_admin_kept hadmin
      rw [hrun] at hkept
      exact ((applyGrantIssue_backs request).related.backed h).kept hkept
    · refine h.within (sceneOf_still hsettles) (fun id hid grant hgrant => ?_) (step_within h.backing.formed event)
      rcases hid with ⟨hissue, -⟩ | hstrands
      · exact absurd hissue hissues
      · exact strands_unusable h hstrands hgrant

end Step

lemma run_backed {s : Coordinator} (h : Backed s) {events : List Event} (hlogged : EachStep Logged s events) :
    Backed (run s events) :=
  run_induction (P := Backed) h fun before event after heq ih => step_backed (hlogged before event after heq) ih

/-! The start. Every reservation that was recovered is logged again. -/

section Start

variable {scene : Scene} {s s' : Coordinator}

lemma holds_kept (hwhole : Whole s.moments) (hkept : Kept s s') (h : ∃ entries, Holds s.files entries) :
    ∃ entries, Holds s'.files entries := by
  have hpath {disk : Disk} (hdisk : ReflTransGen (Stores (groundOf s)) (diskOf s) disk) :
      ∃ entries, Holds disk.files entries := by
    induction hdisk with
    | refl => exact h
    | tail _ hstores ih => exact holds_stores hwhole hstores ih
  exact hpath hkept.disk

lemma holds_act (hwhole : Whole s.moments) (hact : Act scene s s') (h : ∃ entries, Holds s.files entries) :
    ∃ entries, Holds s'.files entries := by
  cases hact with
  | keep hkept => exact holds_kept hwhole hkept h
  | announce grant hscene hstate hacks writtenAt =>
    obtain ⟨entries, hholds⟩ := h
    exact hholds.write_holds _ _ _ _ (hwhole _)
  | _ => exact h

lemma durable_kept {key : Key} {P : Record → Prop} {r : Record} (hkey : Distinct key) (hwhole : Whole s.moments)
    (hformed : WellFormed s.registry) (hfind : find s.registry key = some r) (hP : P r) (hkept : Kept s s')
    (h : Durable key P s.files) : Durable key P s'.files := by
  have hpath {disk : Disk} (hdisk : ReflTransGen (Stores (groundOf s)) (diskOf s) disk) :
      Durable key P disk.files := by
    induction hdisk with
    | refl => exact h
    | tail _ hstores ih => exact durable_stores hkey hwhole hformed hfind hP hstores ih
  exact hpath hkept.disk

/-- A record that has been logged is on disk. -/
lemma append_durable {key : Key} {P : Record → Prop} {r : Record} (hwhole : Whole s.moments)
    (hholds : ∃ entries, Holds s.files entries) (hkey : r.key = key) (hP : P r) {u : Unit}
    (hok : (appendMutation (putMutation r) s).1 = .ok u) : Durable key P (appendMutation (putMutation r) s).2.files := by
  obtain ⟨entries, hholds⟩ := hholds
  rw [append_run]
  have hrun : appendMutation (putMutation r) s = onStore (fun store files => store.append files (putMutation r)
      (s.moments s.index).now (s.moments s.index).append) { s with index := s.index + 1 } := rfl
  rcases hholds.write s.store .mutation (s.moments s.index).now (encodeMutation (putMutation r))
    (hwhole s.index) with ⟨-, hentry, hfiles⟩ | ⟨⟨status, hstatus⟩, -⟩
  · have hdurable := hholds.put (P := P) hentry hkey ⟨rfl, rfl⟩ hP
    rw [← hfiles] at hdurable
    exact hdurable
  · rw [hrun] at hok
    unfold onStore at hok
    dsimp only at hok
    rw [show (s.store.append s.files (putMutation r) (s.moments s.index).now (s.moments s.index).append).result =
      .error status from hstatus] at hok
    cases hok

lemma holds_within (hwhole : Whole s.moments) (hwithin : Within scene s s') (h : ∃ entries, Holds s.files entries) :
    ∃ entries, Holds s'.files entries := by
  have hall (t : Coordinator) (hacts : ReflTransGen (Act scene) s t) :
      t.moments = s.moments ∧ ∃ entries, Holds t.files entries := by
    induction hacts with
    | refl => exact ⟨rfl, h⟩
    | tail _ hact ih =>
      obtain ⟨hmoments, hholds⟩ := ih
      refine ⟨?_, holds_act (by rw [hmoments]; exact hwhole) hact hholds⟩
      rw [← hmoments]
      cases hact with
      | keep hkept => exact hkept.moments
      | _ => rfl
  exact (hall s' hwithin.acts).2

/-- Every reservation of the registry is on disk. -/
def Reserved (s : Coordinator) : Prop :=
  ∀ (id : ReservationId) reservation, s.registry.reservations[id]? = some reservation →
    Durable (.reservation id) (ReservedAs reservation) s.files

lemma logReservations_reserved (hwhole : Whole s.moments) (hformed : WellFormed s.registry)
    (hholds : ∃ entries, Holds s.files entries) :
    Steps Kept (Program.forEach (values s.registry.reservations) fun reservation =>
      appendMutation (.reservationPut reservation)) s fun _ s' => s'.registry = s.registry → Reserved s' := by
  have hfound (reservation : ReservationRecord) (hmem : reservation ∈ values s.registry.reservations) :
      find s.registry (.reservation reservation.id) = some (.reservation reservation) := by
    obtain ⟨key, hkey⟩ := mem_values.mp hmem
    rw [find, (find_reservation hformed hkey).1, hkey]
    rfl
  have heach : Steps Kept (Program.forEach (values s.registry.reservations) fun reservation =>
      appendMutation (.reservationPut reservation)) s fun _ s' => ∀ reservation ∈ values s.registry.reservations,
        Durable (.reservation reservation.id) (ReservedAs reservation) s'.files := by
    refine Steps.forEach_each (fun reservation hmem s₁ h₁ => ?_) fun reservation hmem s₁ s₂ h₁ h₂ h => ?_
    · have hcoherent : Coherent s₁.registry (.reservationPut reservation) := by
        rw [h₁.registry]
        exact mem_values.mp hmem
      refine ⟨(appendMutation_keeps hcoherent).related, fun _ hok => ?_⟩
      exact append_durable (r := .reservation reservation) (by rw [h₁.moments]; exact hwhole)
        (holds_kept hwhole h₁ hholds) rfl ⟨rfl, rfl, rfl, rfl, fun h => h⟩ hok
    · have hsame : find s₁.registry (.reservation reservation.id) = some (.reservation reservation) := by
        rw [h₁.registry]
        exact hfound reservation hmem
      exact durable_kept (distinct_reservation _) (by rw [h₁.moments]; exact hwhole)
        (by rw [h₁.registry]; exact hformed) hsame ⟨rfl, rfl, rfl, rfl, fun h => h⟩ h₂ h
  refine heach.mono fun _ s' h hregistry id reservation hreservation => ?_
  rw [hregistry] at hreservation
  have hlogged := h reservation (mem_values.mpr ⟨id, hreservation⟩)
  rwa [(find_reservation hformed hreservation).1] at hlogged

lemma Reserved.kept (hwhole : Whole s.moments) (hformed : WellFormed s.registry) (h : Reserved s) (hkept : Kept s s') :
    Reserved s' := by
  intro id reservation hreservation
  rw [hkept.registry] at hreservation
  exact durable_kept (distinct_reservation id) hwhole hformed (r := .reservation reservation)
    (by simp [find, hreservation]) ⟨rfl, rfl, rfl, rfl, fun h => h⟩ hkept (h id reservation hreservation)

lemma fenceRecovered_reserved (hwhole : Whole s.moments) (hformed : WellFormed s.registry)
    (hholds : ∃ entries, Holds s.files entries) :
    Does quiet fenceRecovered s fun _ s' => Reserved s' := by
  have hplan : Steps (Edits quiet) (fenceRecoveredState s.startedAt (ascii "coordinator-recovery")
      s.previousIncarnation s.term) s.registry fun _ _ => True := Steps.get_bind (applyFencePlan_edits _ _ _)
  refine Steps.get_bind (Steps.bind (edits_does hplan) fun outcome s₁ hw₁ _ => ?_)
  refine Steps.bind_assoc (Kept.does (onStore_keeps (fun m store files =>
    store.appendIncident files (recoveryText outcome) s.startedAt m.append) (.incident _ _))) fun _ s₂ hw₂ _ => ?_
  refine Steps.get_bind (keeps_bind (logEach_keeps fun _ hgrant => mem_values.mp hgrant) fun _ s₃ h₃ => ?_)
  have hw₃ : Within quiet s s₃ := IsTrans.trans _ _ _ (IsTrans.trans _ _ _ hw₁ hw₂) h₃.within
  have hwhole₃ : Whole s₃.moments := by
    rw [hw₃.moments]
    exact hwhole
  have hformed₃ := hw₃.formed hformed
  refine Steps.get_bind (Steps.bind (Kept.does (logReservations_reserved hwhole₃ hformed₃
    (holds_within hwhole hw₃ hholds))) fun _ s₄ _ h₄ => ?_)
  have hreserved₄ := h₄.2 h₄.1.registry
  have hwhole₄ : Whole s₄.moments := by
    rw [h₄.1.moments]
    exact hwhole₃
  have hformed₄ : WellFormed s₄.registry := by
    rw [h₄.1.registry]
    exact hformed₃
  exact (Kept.does logClusters_keeps).mono fun _ s₅ h₅ => hreserved₄.kept hwhole₄ hformed₄ h₅.1

/-- Nothing of a dormant registry can be used. -/
lemma backed_of_dormant (hwhole : Whole s.moments) (hformed : WellFormed s.registry)
    (hholds : ∃ entries, Holds s.files entries) (hdormant : Dormant s.registry) (hreserved : Reserved s) : Backed s := by
  have hunusable {id : GrantId} {grant : GrantRecord} (hgrant : s.registry.grants[id]? = some grant) :
      ¬grant.usableState = true := by
    have hterminal := hdormant.grants id grant hgrant
    intro husable
    revert hterminal husable
    simp only [GrantRecord.usableState]
    cases grant.state <;> decide
  exact ⟨hwhole, hformed, hholds, fun id grant hgrant husable => absurd husable (hunusable hgrant),
    fun id grant hgrant husable => absurd husable (hunusable hgrant), hreserved⟩

lemma announceTerm_backed (hwhole : Whole s.moments) (hformed : WellFormed s.registry)
    (hholds : ∃ entries, Holds s.files entries) (hfresh : s.recovery.recoveredFromStore = false → s.registry = {}) :
    Does quiet (announceTerm s) s fun _ s' => Backed s' := by
  refine Steps.bind_assoc (Kept.does logTerm_keeps) fun _ s₁ hw₁ h₁ => ?_
  have hwhole₁ : Whole s₁.moments := by
    rw [hw₁.moments]
    exact hwhole
  have hformed₁ := hw₁.formed hformed
  have hholds₁ := holds_within hwhole hw₁ hholds
  refine Steps.bind (P := fun _ s' => Backed s') (Steps.onlyIf (fun _ => ?_) fun hno => ?_) fun _ s₂ _ hbacked => ?_
  · have hboth := (fenceRecovered_rising hformed₁).and (fenceRecovered_reserved hwhole₁ hformed₁ hholds₁)
    refine (hboth.weaken fun _ h => h.2).mono fun _ s₂ h₂ => ?_
    obtain ⟨⟨-, hw₂⟩, hdormant, hreserved⟩ := h₂
    refine backed_of_dormant ?_ (hw₂.formed hformed₁) (holds_within hwhole₁ hw₂ hholds₁) hdormant hreserved
    rw [hw₂.moments]
    exact hwhole₁
  · have hempty : s₁.registry = {} := by
      rw [h₁.1.registry]
      exact hfresh (by simpa using hno)
    refine backed_of_dormant hwhole₁ hformed₁ hholds₁ (by rw [hempty]; exact dormant_empty) fun id r hr => ?_
    rw [hempty] at hr
    simp at hr
  · refine (Steps.weaken (appendAudit_does _ _ _ _ _) fun _ hw => hw).mono fun _ s₃ h₃ => ?_
    exact hbacked.within quiet_still (quiet_idle _) h₃.1

end Start

lemma backed_of_started {launch : Launch} {files : Files} {s : Coordinator} (hwhole : Whole launch.moments)
    (h : Started launch files s) : Backed s := by
  cases hload : RuntimeRun.loadState launch.faults (launched launch files) with
  | mk result s₁ =>
    cases result with
    | error status =>
      rw [Started, start, Program.bind_error hload] at h
      cases h
    | ok u =>
      obtain ⟨opened, hopened, rfl⟩ := loadState_ok hload
      rw [Started, start, Program.bind_ok hload] at h
      cases hbegin : beginIncarnation (loaded { launched launch files with index := 1 } opened) with
      | mk result s₂ =>
        cases result with
        | error status =>
          rw [Program.bind_error hbegin] at h
          cases h
        | ok u =>
          rw [Program.bind_ok hbegin] at h
          rw [beginIncarnation_eq] at hbegin
          set begins : Coordinator := begun (loaded { launched launch files with index := 1 } opened) with hbegins
          have hbacked := (announceTerm_backed (s := begins) hwhole (StoreCompaction.sane_of_openStore hopened).formed
            (holds_of_open hopened) fun hfresh => StoreRecovery.registry_of_fresh hopened hfresh).returns ()
          rw [hbegin] at hbacked
          have hkeeps : Steps Kept (do
              Program.ofResult (attempt launch.listening)
              compactIfNeeded : Op Unit) s₂ fun _ _ => True :=
            Steps.bind (Steps.ofResult (Q := fun _ _ => True) fun _ _ => trivial) fun _ _ _ _ =>
              compactIfNeeded_keeps
          have hkept := hkeeps.related
          rw [h] at hkept
          exact (hbacked rfl).kept hkept

/-! Decisions. -/

/-- The last record of the grant on disk can be used, under the attempt in force, and every reservation of the grant is
on disk. -/
def RestsOnDisk (s : Coordinator) (id : GrantId) : Prop :=
  ∃ grant, s.registry.grants[id]? = some grant ∧ Durable (.grant id) (UsableAs grant.attempt) s.files ∧
    ∀ (key : ReservationId) reservation, s.registry.reservations[key]? = some reservation → reservation.grant = id →
      Durable (.reservation key) (ReservedAs reservation) s.files

/-- A failure of the store is never uncounted. -/
lemma run_failures {s : Coordinator} (hformed : WellFormed s.registry) (events : List Event) :
    s.failures ≤ (run s events).failures := by
  have hboth : WellFormed (run s events).registry ∧ s.failures ≤ (run s events).failures :=
    run_induction (P := fun s' => WellFormed s'.registry ∧ s.failures ≤ s'.failures) ⟨hformed, le_rfl⟩
      fun _ event _ _ ih => ⟨step_wellFormed ih.1 event, ih.2.trans (within_failures (step_within ih.1 event))⟩
  exact hboth.2

lemma logged_of_faultless {s : Coordinator} (hformed : WellFormed s.registry) {events : List Event}
    (h : (run s events).failures = 0) : EachStep Logged s events := by
  intro before event after heq _
  have hbefore := run_wellFormed hformed before
  have hgrows := within_failures (step_within hbefore event)
  have hrest := run_failures (step_wellFormed hbefore event) after
  rw [heq, run_append, run_cons] at h
  omega

lemma traffic_logged : EachStep Logged sampleProcess traffic := by
  have hformed := started_wellFormed sampleProcess_started []
  rw [run_nil] at hformed
  refine logged_of_faultless hformed ?_
  rw [traffic_run]
  decide +kernel

/-- The environment of the sample run, but for one append, which fails and leaves nothing behind. -/
def failingLaunch : Launch :=
  { sampleLaunch with
    moments := fun i =>
      if i = 69 then { sampleMoments i with append := some (0, Status.internalError "the device is gone") }
      else sampleMoments i }

def failingProcess : Coordinator := (start failingLaunch (launched failingLaunch {})).2

/-- The decision on the sample query at the end of the failing run. -/
def decidedFailing : Decision :=
  EngineDecide.decide (run failingProcess traffic).registry sampleQuery (view (run failingProcess traffic) ⟨0⟩)

end InterClusterFabric.RuntimeWriteAhead
