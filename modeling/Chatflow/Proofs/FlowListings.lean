import Chatflow.Proofs.FlowReading
import Chatflow.Proofs.GuardedCalls
import Chatflow.Store.Backend
import Mathlib

/-! Flows that are loaded one document after another, from the database and from a seed. Documents that are not
well-formed are left out, unless reading one of them breaks off: then nothing after it is looked at. -/

namespace Chatflow.Proofs.FlowListings
open Documents FlowReading GuardedCalls WorkLogic

variable {setup : Setup} {w : World}

theorem get?_erase (fields : Fields) (key other : String) :
    (fields.erase key).get? other = if key = other then none else fields.get? other := by
  induction fields with
  | nil => by_cases same : key = other <;> simp [Fields.erase, Fields.get?, same]
  | cons field rest ih =>
    obtain ⟨name, v⟩ := field
    have erased : Fields.erase ((name, v) :: rest) key =
        if name = key then Fields.erase rest key else (name, v) :: Fields.erase rest key := by
      by_cases same : name = key <;> simp [Fields.erase, same]
    rw [erased]
    by_cases same : name = key
    · subst same
      rw [if_pos rfl, ih, Fields.get?_cons]
      split <;> rfl
    · rw [if_neg same, Fields.get?_cons, Fields.get?_cons, ih]
      by_cases here : name = other
      · subst here
        simp [Ne.symm same]
      · simp [here]

/-- What a document is stored under changes its id at most. -/
theorem get?_withOwnId {name : String} (stored : name ≠ "_id") (id : name ≠ "id") (document : Fields) :
    (Flows.withOwnId document).get? name = document.get? name := by
  unfold Flows.withOwnId
  dsimp only
  split
  · rw [get?_erase, if_neg (Ne.symm stored)]
  · rw [Fields.get?_set, if_neg (Ne.symm id), get?_erase, if_neg (Ne.symm stored)]

/-- The bare keywords in a document of the database. -/
def keywordsOf? (document : Fields) : Option Value := flowKeywords? (.obj document)

/-- The flow in a document of the database, if it is well-formed. -/
def flowOf? (document : Fields) : Option Flow := wellFormed? (.obj (Flows.withOwnId document))

theorem keywordsOf?_eq (document : Fields) :
    keywordsOf? document = flowKeywords? (.obj (Flows.withOwnId document)) := by
  have steps : Fields.get? (Flows.withOwnId document) "steps" = Fields.get? document "steps" :=
    get?_withOwnId (by decide) (by decide) document
  simp only [keywordsOf?, flowKeywords?, steps]

theorem ofDocument_eq (document : Fields) : Flows.ofDocument document =
    match keywordsOf? document with
    | some keywords => .error (.noMembers keywords)
    | none => .ok (flowOf? document) := by
  rw [keywordsOf?_eq]
  unfold flowOf? Flows.ofDocument
  cases empty : document.isEmpty with
  | true =>
    obtain rfl := List.isEmpty_iff.mp empty
    rfl
  | false =>
    rw [if_neg Bool.false_ne_true]
    cases reads (.obj (Flows.withOwnId document)) with
    | broken bare _ read => rw [bare, read]
    | kept sound found read => rw [sound, found, read]
    | malformed sound absent read => rw [sound, absent, read]
    | refused sound absent read => rw [sound, absent, read]

theorem ofDocument_found_iff {document : Fields} {f : Flow} :
    Flows.ofDocument document = .ok (some f) ↔ flowOf? document = some f := by
  rw [ofDocument_eq]
  have sound : flowOf? document = some f → keywordsOf? document = none := fun found => by
    rw [keywordsOf?_eq]
    cases reads (.obj (Flows.withOwnId document)) with
    | broken _ absent _ => cases found.symm.trans absent
    | kept sound _ _ | malformed sound _ _ | refused sound _ _ => exact sound
  cases keywords : keywordsOf? document with
  | none => simp
  | some bare =>
    refine ⟨fun impossible => (by cases impossible), fun found => ?_⟩
    rw [sound found] at keywords
    cases keywords

/-- Documents are read in order up to the first one that breaks the reading off. -/
theorem mapM_ofDocument (documents : List Fields) (w : World) :
    (documents.mapM (fun document => Work.check (Flows.ofDocument document)) : Work _) w =
      (match documents.findSome? keywordsOf? with
        | some keywords => .error (.noMembers keywords)
        | none => .ok (documents.map flowOf?), w) := by
  induction documents with
  | nil => rfl
  | cons document rest ih =>
    rw [List.mapM_cons, bind_apply, ofDocument_eq, List.findSome?_cons]
    cases keywordsOf? document with
    | some keywords => rfl
    | none =>
      change ((rest.mapM fun document => Work.check (Flows.ofDocument document)) >>= _ : Work _) w = _
      rw [bind_apply, ih]
      cases rest.findSome? keywordsOf? <;> rfl

/-- The documents of flows that are stored in the database. -/
def flowDocuments (w : World) : List Fields := documentsOf w.outside.database.collections Flows.collection

/-- The documents of the flows that are to be active. -/
def activeDocuments (w : World) : List Fields :=
  (flowDocuments w).filter fun document => (fieldOf document "is_active").same (.bool true)

/-- The active flows are those of the well-formed documents, in their order, unless some document breaks it off. -/
theorem active_eq (stored : setup.hasDatabase = true) (reached : Reached setup w.outside) :
    (Offer.active setup w).1 = match (activeDocuments w).findSome? keywordsOf? with
      | some keywords => .error (.noMembers keywords)
      | none => .ok ((activeDocuments w).filterMap flowOf?) := by
  have found := find_reached (passes_equals "is_active" (.bool true)) reached Flows.collection
  obtain ⟨after, asked⟩ : ∃ after, Work.onOutside (guarded setup
      (.ok (.find Flows.collection [("is_active", .equals (.bool true))] none none)) Reply.documents? []) w =
        (.ok (activeDocuments w), after) := ⟨_, Prod.ext (congrArg Except.ok found) rfl⟩
  simp only [Offer.active, stored, if_true, Flows.active]
  rw [bind_apply, asked]
  dsimp only
  rw [bind_apply, mapM_ofDocument]
  cases (activeDocuments w).findSome? keywordsOf? with
  | some keywords => rfl
  | none => exact congrArg Except.ok (List.filterMap_map)

/-! Seeds. -/

/-- What every addition keeps is kept by the whole seeding. -/
theorem seedWith_keeps {α : Type} {P : Catalogue → Prop} {add : Catalogue → α → Catalogue}
    (each : ∀ c a, P c → P (add c a)) (read : Value → Except Fault α) {c : Catalogue} (holds : P c)
    (documents : List Value) : P (Catalogue.seedWith read add c documents).2 := by
  induction documents generalizing c with
  | nil => exact holds
  | cons v rest ih =>
    unfold Catalogue.seedWith
    split
    · exact ih (each _ _ holds)
    · exact ih holds
    · exact ih holds
    · exact holds

/-- The document of an active flow that starts at a word, or at whatever is in its place. -/
def greeting (id : String) (keywords : Value) (stored : Value := .str id) : Fields :=
  [("_id", stored), ("id", .str id), ("is_active", .bool true),
    ("steps", .list [.obj [("id", .str "begin"), ("type", .str "start"),
      ("config", .obj [("trigger", .obj [("type", .str "message_received"), ("keywords", keywords)])])]])]

/-- The flow that it is the document of. -/
def greets (id : String) : Flow := { id := id, steps := [⟨"begin", .start (some (.message {} .contains ["hi"]))⟩] }

/-- A database with the documents of some flows. -/
def shelf (documents : List Fields) : World :=
  { outside := { database := ⟨false, [(Flows.collection, documents)], []⟩ } }

theorem greeting_kept (stored : Value) : flowOf? (greeting "greet" (.str "hi") stored) = some (greets "greet") := by cbv

end Chatflow.Proofs.FlowListings
