import Chatflow.Proofs.FlowListings
import Chatflow.Proofs.ReachableStates

/-! Flows that are looked up by their ids. In the process each flow is kept by its id. In the database a flow is looked
up by what its document is stored under, whereas it is listed with the id that its document holds, if it holds one. -/

namespace Chatflow.Proofs.FlowLookups
open Documents FlowReading FlowListings GuardedCalls InProcessStore ReachableStates RunEndings StoredSessions WorkLogic

variable {setup : Setup} {w v : World} {c : Catalogue} {f : Flow}

/-- Catalogues as they come about in the process. -/
inductive Built : Catalogue → Prop
  | lists (flows : List Flow) (agents : List Agent) : Built (.ofLists flows agents)
  | flow {c : Catalogue} (f : Flow) : Built c → Built (c.addFlow f)
  | agent {c : Catalogue} (a : Agent) : Built c → Built (c.addAgent a)
  | seed {c : Catalogue} (file : String) : Built c → Built (c.seed file).2

/-- A catalogue has one flow of each id at most. -/
def OneEach (c : Catalogue) : Prop := (c.flows.map Flow.id).Nodup

theorem OneEach.addFlow (one : OneEach c) (f : Flow) : OneEach (c.addFlow f) := nodup_putById one f

theorem OneEach.seedValue (one : OneEach c) (v : Value) : OneEach (c.seedValue v).2 := by
  unfold Catalogue.seedValue
  split
  · exact one
  · split
    · exact one
    next documents _ =>
      have flowed := @seedWith_keeps Flow OneEach Catalogue.addFlow (fun _ f one => one.addFlow f) Flow.ofDocument _ one
        documents
      split
      next seeds =>
        rw [seeds] at flowed
        exact flowed
      next seeds =>
        rw [seeds] at flowed
        split
        · exact flowed
        · exact @seedWith_keeps Agent OneEach Catalogue.addAgent (fun _ _ one => one) _ _ flowed _

theorem Built.oneEach (built : Built c) : OneEach c := by
  induction built with
  | lists flows agents => exact ofLists_distinct flows agents
  | flow f _ one => exact one.addFlow f
  | agent a _ one => exact one
  | seed file _ one =>
    unfold Catalogue.seed
    dsimp only
    split
    · exact one
    · exact one.seedValue _

theorem Built.flow?_of_active (built : Built c) (active : f ∈ c.active) : c.flow? f.id = some f :=
  find?_of_nodup built.oneEach (List.mem_filter.mp active).1

/-- Whether a document is stored under a text. -/
def isUnder (id : String) (document : Fields) : Bool := (fieldOf document "_id").same (.str id)

theorem isUnder_iff {id : String} {document : Fields} :
    isUnder id document = true ↔ fieldOf document "_id" = .str id := by
  unfold isUnder
  cases fieldOf document "_id" with
  | str s => simp [Value.same, Value.number?, BEq.beq, Value.beq]
  | _ => simp [Value.same, Value.number?, BEq.beq, Value.beq]

theorem flow?_eq (stored : setup.hasDatabase = true) (reached : Reached setup v.outside) (id : String) :
    (Offer.flow? setup id v).1 = match (flowDocuments v).find? (isUnder id) with
      | some document => Flows.ofDocument document
      | none => .ok none := by
  have found := findOne_reached (passes_equals "_id" (.str id)) reached Flows.collection
  obtain ⟨after, asked⟩ : ∃ after, Flows.documentOf setup Flows.collection (.str id) v =
      (.ok ((flowDocuments v).find? (isUnder id)), after) := ⟨_, Prod.ext (congrArg Except.ok found) rfl⟩
  simp only [Offer.flow?, stored, if_true, Flows.flow?]
  rw [bind_apply, asked]
  cases (flowDocuments v).find? (isUnder id) <;> rfl

theorem flow?_found_iff (stored : setup.hasDatabase = true) (reached : Reached setup v.outside) {id : String} :
    (Offer.flow? setup id v).1 = .ok (some f) ↔
      ∃ document, (flowDocuments v).find? (isUnder id) = some document ∧ flowOf? document = some f := by
  rw [flow?_eq stored reached]
  cases (flowDocuments v).find? (isUnder id) with
  | none => simp
  | some document => simp only [ofDocument_found_iff, Option.some.injEq, exists_eq_left']

theorem has_eq (fields : Fields) (name : String) : fields.has name = (fields.get? name).isSome := by
  induction fields with
  | nil => rfl
  | cons field rest ih =>
    obtain ⟨other, v⟩ := field
    rw [Fields.get?_cons]
    by_cases same : other = name
    · simp [Fields.has, same]
    · rw [if_neg same, ← ih]
      simp [Fields.has, same]

/-- The id that a flow is listed with: the one that its document holds, or else what it is stored under, as a text. -/
def listedId (document : Fields) : Value :=
  (document.get? "id").getD (.str ((document.get? "_id").getD (.str "")).display)

theorem get?_listedId (document : Fields) : (Flows.withOwnId document).get? "id" = some (listedId document) := by
  have held : (document.erase "_id").get? "id" = document.get? "id" := by
    rw [get?_erase, if_neg (by decide)]
  unfold Flows.withOwnId listedId
  dsimp only
  rw [has_eq, held]
  cases id : document.get? "id" with
  | some own => simp [held, id]
  | none => simp [Fields.get?_set]

theorem flowOf?_id {document : Fields} (found : flowOf? document = some f) : listedId document = .str f.id := by
  obtain ⟨read, _⟩ := Option.filter_eq_some_iff.mp found
  simp only [Flow.ofValue, Schema.record, toOption_seq, toOption_map, required_text, Option.bind_eq_some_iff,
    Option.map_eq_some_iff] at read
  obtain ⟨_, ⟨_, ⟨_, ⟨_, ⟨id, ⟨own, held, text⟩, rfl⟩, _, _, rfl⟩, _, _, rfl⟩, _, _, rfl⟩, _, _, rfl⟩ := read
  cases held.symm.trans (get?_listedId document)
  cases listed : listedId document with
  | str s =>
    rw [listed] at text
    cases text
    rfl
  | _ =>
    rw [listed] at text
    cases text

/-- No two documents of flows are stored under the same. -/
def Unique (w : World) : Prop :=
  (flowDocuments w).Pairwise fun a b => (fieldOf a "_id").same (fieldOf b "_id") = false

theorem Unique.find?_of_mem (unique : Unique w) {document : Fields} {id : String} (member : document ∈ flowDocuments w)
    (under : isUnder id document = true) : (flowDocuments w).find? (isUnder id) = some document := by
  unfold Unique at unique
  generalize flowDocuments w = documents at unique member
  induction documents with
  | nil => cases member
  | cons first rest ih =>
    obtain ⟨apart, unique⟩ := List.pairwise_cons.mp unique
    rcases List.mem_cons.mp member with rfl | inside
    · rw [List.find?_cons_of_pos under]
    · rw [List.find?_cons_of_neg, ih unique inside]
      intro also
      have clash := apart document inside
      rw [isUnder_iff.mp under] at clash
      exact Bool.false_ne_true (clash.symm.trans also)

theorem flow?_absent (stored : setup.hasDatabase = true) (reached : Reached setup v.outside) {id : String}
    (absent : ∀ document ∈ flowDocuments v, fieldOf document "_id" ≠ .str id) :
    (Offer.flow? setup id v).1 = .ok none := by
  have none : (flowDocuments v).find? (isUnder id) = none :=
    List.find?_eq_none.mpr fun document member under => absent document member (isUnder_iff.mp under)
  rw [flow?_eq stored reached, none]

theorem continueSession_missing (stored : setup.hasDatabase = true) (reached : Reached setup v.outside) {s : Session}
    (absent : ∀ document ∈ flowDocuments v, fieldOf document "_id" ≠ .str s.flowId) {e : Event} {left : Nat}
    {o : Outcome} {after : World} (done : Conversation.continueSession setup e (left + 1) s v = (.ok o, after)) :
    o.status = .flowMissing := by
  have told := flow?_absent stored reached absent
  obtain ⟨found, middle, asked, later⟩ := bind_ok done
  rw [asked] at told
  cases told
  obtain ⟨_, _, _, later⟩ := bind_ok later
  cases later
  rfl

/-- A flow that is listed is found under its id again, always in the process, and in the database exactly if it is the
flow of the first document that is stored under its id. A document that holds another id than the one it is stored under,
or that is not stored under a text, is therefore listed but not found. -/
theorem listed_flow_found_iff_stored_under_its_id {flows : List Flow} (listed : (Offer.active setup w).1 = .ok flows)
    (member : f ∈ flows) :
    (setup.hasDatabase = false → Built w.catalogue → v.catalogue = w.catalogue →
      (Offer.flow? setup f.id v).1 = .ok (some f)) ∧
    (setup.hasDatabase = true → Reached setup w.outside → Reached setup v.outside →
      flowDocuments v = flowDocuments w →
      ((Offer.flow? setup f.id v).1 = .ok (some f) ↔
        ∃ document, (flowDocuments w).find? (isUnder f.id) = some document ∧ flowOf? document = some f) ∧
      (∃ document ∈ activeDocuments w, flowOf? document = some f ∧ listedId document = .str f.id ∧
        (Unique w → fieldOf document "_id" = .str f.id → (Offer.flow? setup f.id v).1 = .ok (some f))) ∧
      ((∀ document ∈ flowDocuments w, fieldOf document "_id" ≠ .str f.id) → (Offer.flow? setup f.id v).1 = .ok none ∧
        ∀ (s : Session) e left o after, s.flowId = f.id →
          Conversation.continueSession setup e (left + 1) s v = (.ok o, after) → o.status = .flowMissing)) := by
  refine ⟨fun inProcess built same => ?_, fun stored reached again kept => ?_⟩
  · simp only [Offer.active, inProcess, Bool.false_eq_true, if_false] at listed
    cases listed
    simp only [Offer.flow?, inProcess, Bool.false_eq_true, if_false]
    refine congrArg Except.ok ?_
    change v.catalogue.flow? f.id = some f
    rw [same]
    exact built.flow?_of_active member
  · have found : (Offer.flow? setup f.id v).1 = .ok (some f) ↔
        ∃ document, (flowDocuments w).find? (isUnder f.id) = some document ∧ flowOf? document = some f := by
      rw [flow?_found_iff stored again, kept]
    refine ⟨found, ?_, fun absent => ?_⟩
    · rw [active_eq stored reached] at listed
      cases keywords : (activeDocuments w).findSome? keywordsOf? with
      | some bare =>
        rw [keywords] at listed
        cases listed
      | none =>
        rw [keywords] at listed
        cases listed
        obtain ⟨document, active, reads⟩ := List.mem_filterMap.mp member
        refine ⟨document, active, reads, flowOf?_id reads, fun unique under => found.mpr ⟨document, ?_, reads⟩⟩
        exact unique.find?_of_mem (List.mem_filter.mp active).1 (isUnder_iff.mpr under)
    · rw [← kept] at absent
      refine ⟨flow?_absent stored again absent, fun s e left o after named done => ?_⟩
      rw [← named] at absent
      exact continueSession_missing stored again absent done

/-- A database with the document of one flow, which may be stored under something else than the id of the flow. -/
def filedUnder (stored : Value) : World := shelf [greeting "greet" (.str "hi") stored]

theorem greeting_listed (stored : Value) : (Offer.active onDatabase (filedUnder stored)).1 =
    .ok [greets "greet"] := by
  rw [active_eq rfl (reached_onDatabase rfl)]
  change Except.ok ([greeting "greet" (.str "hi") stored].filterMap flowOf?) = _
  rw [List.filterMap_cons, greeting_kept]
  rfl

theorem greeting_found_where_filed_under_its_id :
    (Offer.flow? (aloneAt ⟨5, 0⟩) "greet" (untouched (greets "greet"))).1 = .ok (some (greets "greet")) ∧
    (Offer.flow? onDatabase "greet" (filedUnder (.str "greet"))).1 = .ok (some (greets "greet")) ∧
    (Offer.flow? onDatabase "greet" (filedUnder (.str "6650f0"))).1 = .ok none ∧
    ∃ o after, Conversation.continueSession onDatabase { address := "+5215512345678" } 1 (newcomer (greets "greet"))
      (filedUnder (.str "6650f0")) = (.ok o, after) ∧ o.status = .flowMissing := by
  have member : greets "greet" ∈ [greets "greet"] := List.mem_singleton_self _
  have inProcess := (@listed_flow_found_iff_stored_under_its_id (aloneAt ⟨5, 0⟩) (untouched (greets "greet"))
    (untouched (greets "greet")) _ _ rfl member).1 rfl (.lists _ _) rfl
  have filed := fun stored => (@listed_flow_found_iff_stored_under_its_id onDatabase (filedUnder stored)
    (filedUnder stored) _ _ (greeting_listed stored) member).2 rfl (reached_onDatabase rfl) (reached_onDatabase rfl) rfl
  have misfiled : ∀ document ∈ flowDocuments (filedUnder (.str "6650f0")), fieldOf document "_id" ≠ .str "greet" := by
    intro document only
    obtain rfl := List.mem_singleton.mp only
    exact fun same => absurd (Value.str.inj same) (by decide)
  obtain ⟨absent, missing⟩ := (filed (.str "6650f0")).2.2 misfiled
  obtain ⟨o, after, done⟩ : ∃ o after, Conversation.continueSession onDatabase { address := "+5215512345678" } 1
      (newcomer (greets "greet")) (filedUnder (.str "6650f0")) = (.ok o, after) := ⟨_, _, rfl⟩
  exact ⟨inProcess, (filed _).1.mpr ⟨_, rfl, greeting_kept _⟩, absent, o, after, done, missing _ _ _ _ _ rfl done⟩

/-- A flow whose document holds another id than the one it is stored under is listed, and not found. -/
theorem misfiled_flow_is_listed_and_not_found :
    (Offer.active onDatabase (filedUnder (.str "6650f0"))).1 = .ok [greets "greet"] ∧
    (Offer.flow? onDatabase (greets "greet").id (filedUnder (.str "6650f0"))).1 = .ok none :=
  ⟨greeting_listed _, rfl⟩

end Chatflow.Proofs.FlowLookups
