import InterClusterFabric.RuntimeStart
import InterClusterFabric.RuntimeTopology

/-! What a coordinator never takes back. Grants end and contracts close, but what was agreed stays on record, between
the same parties and over the same capacity, and the audit trail only grows. -/
namespace InterClusterFabric.RuntimeHistory
open CoreStatus CoreIds CoreTime ModelRecords ModelRegistry ModelRegistryLaws WireMessages RuntimeFencing
open RuntimeCoordinator RuntimeHandlers RuntimeAdmin RuntimeEdits RuntimeStepsHandlers RuntimeStepsAdmin RuntimeRun
open RuntimeStart LibraryChecked LibraryOrdMap
open StoreDurable hiding loadState

/-- The identity that a new contract gets is not one of a registered contract. -/
def FreshContract (s : Coordinator) (event : Event) : Prop :=
  ∀ request, Administers s event request → request.action = .authorizeContract →
    s.registry.contracts[(⟨nextUuid s⟩ : ContractId)]? = none

/-- The identity that a new grant gets is not one of a registered grant. -/
def FreshGrant (s : Coordinator) (event : Event) : Prop :=
  ∀ request, Administers s event request → request.action = .issueGrant →
    s.registry.grants[(⟨nextUuid s⟩ : GrantId)]? = none

/-- The contracts are still there, between the same parties and over the same capacity. -/
def KeepsContracts (base registry : Registry) : Prop :=
  ∀ (id : ContractId) contract, base.contracts[id]? = some contract →
    ∃ next, registry.contracts[id]? = some next ∧ next.parties = contract.parties ∧ next.capacity = contract.capacity

/-- The grants are still there, under the same contracts and over the same capacity. -/
def KeepsGrants (base registry : Registry) : Prop :=
  ∀ (id : GrantId) grant, base.grants[id]? = some grant →
    ∃ next, registry.grants[id]? = some next ∧ next.contract = grant.contract ∧ next.capacity = grant.capacity

lemma KeepsContracts.trans {first second third : Registry} (h : KeepsContracts first second)
    (h' : KeepsContracts second third) : KeepsContracts first third := by
  intro id contract hcontract
  obtain ⟨next, hnext, hparties, hcapacity⟩ := h id contract hcontract
  obtain ⟨last, hlast, hparties', hcapacity'⟩ := h' id next hnext
  exact ⟨last, hlast, hparties'.trans hparties, hcapacity'.trans hcapacity⟩

lemma KeepsGrants.trans {first second third : Registry} (h : KeepsGrants first second)
    (h' : KeepsGrants second third) : KeepsGrants first third := by
  intro id grant hgrant
  obtain ⟨next, hnext, hcontract, hcapacity⟩ := h id grant hgrant
  obtain ⟨last, hlast, hcontract', hcapacity'⟩ := h' id next hnext
  exact ⟨last, hlast, hcontract'.trans hcontract, hcapacity'.trans hcapacity⟩

section Edits

variable {scene : Scene} {registry next : Registry}

/-- A contract that is not proposed anew keeps its parties and its capacity. -/
lemma edit_contract (hedit : Edit scene registry next) {id : ContractId} {contract : ContractRecord}
    (hfind : registry.contracts[id]? = some contract) (hfresh : ∀ new, scene.proposes new → new.id ≠ id) :
    ∃ last, next.contracts[id]? = some last ∧ last.parties = contract.parties ∧ last.capacity = contract.capacity := by
  have hsame (h : next.contracts = registry.contracts) :
      ∃ last, next.contracts[id]? = some last ∧ last.parties = contract.parties ∧ last.capacity = contract.capacity :=
    ⟨contract, by rw [h]; exact hfind, rfl, rfl⟩
  cases hedit with
  | audit record hok =>
    obtain ⟨-, -, rfl⟩ := appendAudit_eq_ok.mp hok
    exact hsame rfl
  | grant _ _ _ _ _ => exact hsame rfl
  | issue grant _ _ _ hok =>
    obtain ⟨-, -, rfl⟩ := putGrant_eq_ok.mp hok
    exact hsame rfl
  | contract key old new hold _ hparties hcapacity _ =>
    by_cases hkey : id = key
    · subst hkey
      cases hfind.symm.trans hold
      exact ⟨new, Std.ExtTreeMap.getElem?_insert_self, hparties, hcapacity⟩
    · exact ⟨contract, by rw [setContract, getElem?_insert_eq, if_neg hkey]; exact hfind, rfl, rfl⟩
  | propose new hscene _ hok =>
    obtain ⟨-, -, rfl⟩ := putContract_eq_ok.mp hok
    have hkey : ¬id = new.id := fun heq => hfresh new hscene heq.symm
    exact ⟨contract, by rw [store, getElem?_insert_eq, if_neg hkey]; exact hfind, rfl, rfl⟩
  | touch _ _ _ _ _ => exact hsame rfl
  | replace cluster _ hok =>
    obtain ⟨-, -, rfl⟩ := putCluster_eq_ok.mp hok
    exact hsame rfl
  | eraseCluster _ _ hok =>
    obtain ⟨-, hok⟩ := rejectIf_bind_eq_ok.mp hok
    cases hok
    exact hsame rfl
  | topology _ hcontracts _ _ _ _ _ => exact hsame hcontracts
  | reserve _ _ _ _ _ hok =>
    obtain ⟨-, -, rfl⟩ := putReservation_eq_ok.mp hok
    exact hsame rfl
  | leak _ _ _ _ _ _ => exact hsame rfl
  | release _ reservation now outcome _ =>
    refine hsame ?_
    unfold releaseReservation
    split
    · rfl
    · dsimp only [returnToClusters]
      split <;> rfl

/-- A grant that is not issued anew keeps its contract and its capacity. -/
lemma edit_grant (hedit : Edit scene registry next) {id : GrantId} {grant : GrantRecord}
    (hfind : registry.grants[id]? = some grant) (hfresh : ¬scene.issues id) :
    ∃ last, next.grants[id]? = some last ∧ last.contract = grant.contract ∧ last.capacity = grant.capacity := by
  rcases edit_grants hedit id with hsame | ⟨old, new, hold, hnew, hmove⟩ | ⟨hissues, -⟩
  · exact ⟨grant, by rw [hsame]; exact hfind, rfl, rfl⟩
  · cases hfind.symm.trans hold
    obtain ⟨-, hcontract, hcapacity⟩ := hmove.fields
    exact ⟨new, hnew, hcontract, hcapacity⟩
  · exact absurd hissues hfresh

/-- Audit records are only added, at the end. -/
lemma edit_audit (hedit : Edit scene registry next) : registry.audit <+: next.audit := by
  cases hedit with
  | audit record hok =>
    obtain ⟨-, -, rfl⟩ := appendAudit_eq_ok.mp hok
    exact List.prefix_append _ _
  | grant _ _ _ _ _ => exact List.prefix_rfl
  | issue grant _ _ _ hok =>
    obtain ⟨-, -, rfl⟩ := putGrant_eq_ok.mp hok
    exact List.prefix_rfl
  | contract _ _ _ _ _ _ _ _ => exact List.prefix_rfl
  | propose contract _ _ hok =>
    obtain ⟨-, -, rfl⟩ := putContract_eq_ok.mp hok
    exact List.prefix_rfl
  | touch _ _ _ _ _ => exact List.prefix_rfl
  | replace cluster _ hok =>
    obtain ⟨-, -, rfl⟩ := putCluster_eq_ok.mp hok
    exact List.prefix_rfl
  | eraseCluster _ _ hok =>
    obtain ⟨-, hok⟩ := rejectIf_bind_eq_ok.mp hok
    cases hok
    exact List.prefix_rfl
  | topology _ _ _ _ haudit _ _ => rw [haudit]
  | reserve _ _ _ _ _ hok =>
    obtain ⟨-, -, rfl⟩ := putReservation_eq_ok.mp hok
    exact List.prefix_rfl
  | leak _ _ _ _ _ _ => exact List.prefix_rfl
  | release _ reservation now outcome _ =>
    have hsame : (releaseReservation registry reservation now outcome).2.audit = registry.audit := by
      unfold releaseReservation
      split
      · rfl
      · dsimp only [returnToClusters]
        split <;> rfl
    rw [hsame]

end Edits

section Steps

variable {s : Coordinator} {event : Event} {events : List Event}

lemma step_keepsContracts (hformed : WellFormed s.registry) (hfresh : FreshContract s event) :
    KeepsContracts s.registry (step s event).registry := by
  refine step_keeps (P := KeepsContracts s.registry) hformed (fun _ contract h => ⟨contract, h, rfl, rfl⟩) ?_
  intro registry next _ hkeeps hedit id contract hcontract
  obtain ⟨here, hhere, hparties, hcapacity⟩ := hkeeps id contract hcontract
  have hother : ∀ new, (sceneOf s event).proposes new → new.id ≠ id := by
    rintro new ⟨request, source, target, hadministers, haction, -, -, -, hdrawn⟩ rfl
    rw [hdrawn, hfresh request hadministers haction] at hcontract
    cases hcontract
  obtain ⟨last, hlast, hparties', hcapacity'⟩ := edit_contract hedit hhere hother
  exact ⟨last, hlast, hparties'.trans hparties, hcapacity'.trans hcapacity⟩

lemma step_keepsGrants (hformed : WellFormed s.registry) (hfresh : FreshGrant s event) :
    KeepsGrants s.registry (step s event).registry := by
  refine step_keeps (P := KeepsGrants s.registry) hformed (fun _ grant h => ⟨grant, h, rfl, rfl⟩) ?_
  intro registry next _ hkeeps hedit id grant hgrant
  obtain ⟨here, hhere, hcontract, hcapacity⟩ := hkeeps id grant hgrant
  have hother : ¬(sceneOf s event).issues id := by
    rintro ⟨⟨request, hadministers, haction⟩, rfl⟩
    rw [hfresh request hadministers haction] at hgrant
    cases hgrant
  obtain ⟨last, hlast, hcontract', hcapacity'⟩ := edit_grant hedit hhere hother
  exact ⟨last, hlast, hcontract'.trans hcontract, hcapacity'.trans hcapacity⟩

lemma step_audit (hformed : WellFormed s.registry) (event : Event) :
    s.registry.audit <+: (step s event).registry.audit :=
  step_keeps (P := fun registry => s.registry.audit <+: registry.audit) hformed List.prefix_rfl
    fun _ _ _ hprefix hedit => hprefix.trans (edit_audit hedit)

end Steps

/-- From any state of a run of a started coordinator to any later one: the audit trail has only grown, and its sequence
has no gap; and every contract and grant is still on record, the contract between the same parties, the grant under the
same contract, and each over the same capacity. -/
theorem history_preserved {launch : Launch} {files : Files} {s : Coordinator} (hstarted : Started launch files s)
    {before after : List Event} (hcontracts : EachStep FreshContract s (before ++ after))
    (hgrants : EachStep FreshGrant s (before ++ after)) :
    let earlier := (run s before).registry
    let later := (run s (before ++ after)).registry
    earlier.audit <+: later.audit ∧ Contiguous later.audit ∧ KeepsContracts earlier later ∧
      KeepsGrants earlier later := by
  have hformed := started_wellFormed hstarted
  intro earlier later
  have hall : earlier.audit <+: later.audit ∧ KeepsContracts earlier later ∧ KeepsGrants earlier later := by
    show earlier.audit <+: (run s (before ++ after)).registry.audit ∧
      KeepsContracts earlier (run s (before ++ after)).registry ∧ KeepsGrants earlier (run s (before ++ after)).registry
    rw [run_append]
    refine run_induction (P := fun t => earlier.audit <+: t.registry.audit ∧ KeepsContracts earlier t.registry ∧
        KeepsGrants earlier t.registry)
      ⟨List.prefix_rfl, fun _ contract h => ⟨contract, h, rfl, rfl⟩, fun _ grant h => ⟨grant, h, rfl, rfl⟩⟩ ?_
    intro middle event rest heq h
    have hwell : WellFormed (run (run s before) middle).registry := by
      rw [← run_append]
      exact hformed _
    have hsplit : before ++ after = (before ++ middle) ++ event :: rest := by rw [heq, List.append_assoc]
    have hcontract := hcontracts (before ++ middle) event rest hsplit
    have hgrant := hgrants (before ++ middle) event rest hsplit
    rw [run_append] at hcontract hgrant
    exact ⟨h.1.trans (step_audit hwell event), h.2.1.trans (step_keepsContracts hwell hcontract),
      h.2.2.trans (step_keepsGrants hwell hgrant)⟩
  exact ⟨hall.1, (hformed _).contiguous, hall.2⟩

/-! A contract that is proposed, a grant on it, and both commits. -/

section Sample

variable {s : Coordinator} {event : Event}

lemma freshContract_of_other
    (h : ∀ connection request, event = .message connection (.admin request) → request.action ≠ .authorizeContract) :
    FreshContract s event := by
  rintro request ⟨connection, heq, -⟩ haction
  exact absurd haction (h connection request heq)

lemma freshGrant_of_other
    (h : ∀ connection request, event = .message connection (.admin request) → request.action ≠ .issueGrant) :
    FreshGrant s event := by
  rintro request ⟨connection, heq, -⟩ haction
  exact absurd haction (h connection request heq)

lemma sample_draws : (run sampleProcess connectAgents).registry.contracts.isEmpty = true ∧
    (run sampleProcess agree).registry.grants.isEmpty = true := by
  rw [agree_run]
  decide +kernel

lemma issued_freshContract : EachStep FreshContract sampleProcess (agree ++ [issueGrant]) := by
  have hconnect : EachStep FreshContract sampleProcess connectAgents := by
    refine eachStep_of_mem fun event hevent s => freshContract_of_other fun connection request heq => ?_
    simp only [connectAgents, List.mem_cons, List.not_mem_nil, or_false] at hevent
    rcases hevent with rfl | rfl | rfl | rfl <;> cases heq <;> simp
  have hpropose : FreshContract (run sampleProcess connectAgents) proposeContract := by
    intro request _ _
    simp [Std.ExtTreeMap.isEmpty_iff.mp sample_draws.1]
  have hanswer (side : Side) (s : Coordinator) : FreshContract s (answer side .accepted) :=
    freshContract_of_other fun _ _ heq => by simp [answer] at heq
  have hissue (s : Coordinator) : FreshContract s issueGrant :=
    freshContract_of_other fun _ _ heq => by cases heq; simp
  have hall := eachStep_snoc (eachStep_snoc (eachStep_snoc (eachStep_snoc hconnect hpropose)
    (hanswer .first _)) (hanswer .second _)) (hissue _)
  simpa only [agree, List.append_assoc, List.cons_append, List.nil_append] using hall

lemma issued_freshGrant : EachStep FreshGrant sampleProcess (agree ++ [issueGrant]) := by
  have hagree : EachStep FreshGrant sampleProcess agree := by
    refine eachStep_of_mem fun event hevent s => freshGrant_of_other fun connection request heq => ?_
    simp only [agree, connectAgents, List.cons_append, List.nil_append, List.mem_cons, List.not_mem_nil,
      or_false] at hevent
    rcases hevent with rfl | rfl | rfl | rfl | rfl | rfl | rfl <;> cases heq <;> simp
  refine eachStep_snoc hagree fun request _ _ => ?_
  simp [Std.ExtTreeMap.isEmpty_iff.mp sample_draws.2]

lemma prepared_fresh (side : Side) (s : Coordinator) : FreshContract s (prepared side) ∧ FreshGrant s (prepared side) :=
  ⟨freshContract_of_other fun _ _ heq => by simp [prepared] at heq,
    freshGrant_of_other fun _ _ heq => by simp [prepared] at heq⟩

lemma committed_fresh (side : Side) (s : Coordinator) :
    FreshContract s (committed side) ∧ FreshGrant s (committed side) :=
  ⟨freshContract_of_other fun _ _ heq => by simp [committed] at heq,
    freshGrant_of_other fun _ _ heq => by simp [committed] at heq⟩

/-- The contract and the grant are on record through the whole commit. -/
theorem history_preserved_commit :
    KeepsContracts (run sampleProcess (agree ++ [issueGrant])).registry
        (run sampleProcess (agree ++ [issueGrant] ++ commitBoth)).registry ∧
      KeepsGrants (run sampleProcess (agree ++ [issueGrant])).registry
        (run sampleProcess (agree ++ [issueGrant] ++ commitBoth)).registry := by
  have hcontracts := eachStep_snoc (eachStep_snoc (eachStep_snoc (eachStep_snoc issued_freshContract
    (prepared_fresh .first _).1) (prepared_fresh .second _).1) (committed_fresh .first _).1) (committed_fresh .second _).1
  have hgrants := eachStep_snoc (eachStep_snoc (eachStep_snoc (eachStep_snoc issued_freshGrant
    (prepared_fresh .first _).2) (prepared_fresh .second _).2) (committed_fresh .first _).2) (committed_fresh .second _).2
  simp only [List.append_assoc] at hcontracts hgrants
  exact (history_preserved sampleProcess_started (by simpa [commitBoth] using hcontracts)
    (by simpa [commitBoth] using hgrants)).2.2

end Sample

end InterClusterFabric.RuntimeHistory

