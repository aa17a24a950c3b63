import Chatflow.Proofs.FlowReading
import Chatflow.Webhook

/-! Which deliveries of the channel can be read, and what is read from those that can. A delivery is read as a whole or
not at all: each part of it that is looked into has to be what it is looked into as. Of a delivery that is read, each
message with a sender becomes one event, in the order of the delivery. -/

namespace Chatflow.Proofs.LegibleDeliveries
open Schema Webhook FlowReading

variable {α β : Type}

/-- What readings fail with: something is no table, or has no members, or is not what an event may hold. -/
inductive Misread : Fault → Prop
  | noFields : Misread .noFields
  | wrongType : Misread .wrongType
  | invalidDocument (issues : List Issue) : Misread (.invalidDocument issues)

/-- A reading succeeds exactly if something is legible, and gives what is told then. -/
structure Reads (reading : Except Fault β) (legible : Prop) (told : β) : Prop where
  read : ∀ b, reading = .ok b ↔ legible ∧ told = b
  misread : ∀ fault, reading = .error fault → Misread fault

namespace Reads

variable {p q : Prop} {a : α} {b : β}

theorem ok (legible : p) : Reads (.ok a) p a :=
  ⟨fun b => by simp [legible], fun _ impossible => by cases impossible⟩

theorem error {fault : Fault} (illegible : ¬p) (misread : Misread fault) : Reads (.error fault) p a :=
  ⟨fun b => by simp [illegible], fun _ same => by cases same; exact misread⟩

theorem illegible {fault : Fault} (one : Reads (.error fault) p a) : ¬p := by
  intro legible
  cases (one.read a).mpr ⟨legible, rfl⟩

theorem legible {a' : α} (one : Reads (.ok a') p a) : p ∧ a = a' := (one.read a').mp rfl

theorem bind {first : Except Fault α} {next : α → Except Fault β} (one : Reads first p a)
    (other : p → Reads (next a) q b) : Reads (first >>= next) (p ∧ q) b := by
  cases first with
  | error fault => exact error (fun both => one.illegible both.1) (one.misread fault rfl)
  | ok a' =>
    obtain ⟨holds, rfl⟩ := one.legible
    obtain ⟨read, misread⟩ := other holds
    refine ⟨fun c => ?_, misread⟩
    simp only [holds, true_and]
    exact read c

theorem weaken {reading : Except Fault α} (same : q ↔ p) (one : Reads reading p a) : Reads reading q a := by
  rw [propext same]
  exact one

theorem telling {reading : Except Fault α} {a' : α} (same : a' = a) (one : Reads reading p a) : Reads reading p a' :=
  same ▸ one

theorem mapM {reading : α → Except Fault β} {legible : α → Prop} {told : α → β} {items : List α}
    (each : ∀ a ∈ items, Reads (reading a) (legible a) (told a)) :
    Reads (items.mapM reading) (∀ a ∈ items, legible a) (items.map told) := by
  induction items with
  | nil => exact ok (by simp)
  | cons a rest ih =>
    rw [List.mapM_cons]
    have others := ih fun other member => each other (List.mem_cons_of_mem _ member)
    refine weaken ?_ ((each a List.mem_cons_self).bind fun _ => others.bind fun _ => ok trivial)
    simp

theorem foldlM {step : β → α → Except Fault β} {legible : α → Prop} {told : β → α → β} {items : List α}
    (each : ∀ b, ∀ a ∈ items, Reads (step b a) (legible a) (told b a)) (b : β) :
    Reads (items.foldlM step b) (∀ a ∈ items, legible a) (items.foldl told b) := by
  induction items generalizing b with
  | nil => exact ok (by simp)
  | cons a rest ih =>
    rw [List.foldlM_cons]
    have others := ih (fun b other member => each b other (List.mem_cons_of_mem _ member)) (told b a)
    refine weaken ?_ ((each b a List.mem_cons_self).bind fun _ => others)
    simp

end Reads

/-- The table that a value is, or one without fields. -/
def tableIn (v : Value) : Fields := v.fields?.getD []

/-- The table in a field, or one without fields. -/
def part (fields : Fields) (name : String) : Fields := tableIn ((fields.get? name).getD .null)

/-- The tables in a field that holds a list. -/
def tables (fields : Fields) (name : String) : List Fields :=
  match fields.get? name with
  | some (.list items) => items.filterMap Value.fields?
  | _ => []

/-- A field holds a table, if anything that counts. -/
def HoldsTable (fields : Fields) (name : String) : Prop :=
  ((fields.get? name).getD .null).truthy = true → ∃ part, (fields.get? name).getD .null = .obj part

/-- A field holds a list of tables, if anything at all that has members. -/
def HoldsTables (fields : Fields) (name : String) : Prop :=
  ∀ v, fields.get? name = some v → (∃ parts : List Fields, v = .list (parts.map .obj)) ∨ v = .str "" ∨ v = .obj []

/-- A field holds tables, each of which is legible. -/
def HoldsEach (legible : Fields → Prop) (fields : Fields) (name : String) : Prop :=
  HoldsTables fields name ∧ ∀ part ∈ tables fields name, legible part

theorem fields_read (v : Value) : Reads (Argument.fields v) (∃ part, v = .obj part) (tableIn v) := by
  cases v with
  | obj fields => exact .ok ⟨fields, rfl⟩
  | _ => exact .error (by simp) .noFields

theorem tableIn_of_falsy {v : Value} (absent : v.truthy = false) : tableIn v = [] := by
  cases v with
  | obj fields => simpa [Value.truthy, tableIn, Value.fields?] using absent
  | _ => rfl

theorem tableOf_read (fields : Fields) (name : String) :
    Reads (tableOf fields name) (HoldsTable fields name) (part fields name) := by
  have asked : tableOf fields name =
      if ((fields.get? name).getD .null).truthy then Argument.fields ((fields.get? name).getD .null) else .ok [] := by
    unfold tableOf
    cases fields.get? name <;> rfl
  rw [asked]
  unfold HoldsTable part
  generalize (fields.get? name).getD .null = v
  cases counts : v.truthy with
  | true => exact (fields_read v).weaken (by simp)
  | false =>
    rw [tableIn_of_falsy counts]
    exact .ok (by simp)

theorem HoldsTables.members {fields : Fields} {name : String} (holds : HoldsTables fields name) :
    Argument.membersOf fields name = .ok ((tables fields name).map .obj) := by
  unfold Argument.membersOf tables
  cases found : fields.get? name with
  | none => rfl
  | some v =>
    rcases holds v found with ⟨parts, rfl⟩ | rfl | rfl
    · have same : (parts.map Value.obj).filterMap Value.fields? = parts := by
        rw [List.filterMap_map]
        exact List.filterMap_some
      simp [Argument.members, same]
    · rfl
    · rfl

theorem map_obj {items : List Value} (each : ∀ v ∈ items, ∃ part, v = .obj part) :
    ∃ parts : List Fields, items = parts.map .obj := by
  induction items with
  | nil => exact ⟨[], rfl⟩
  | cons v rest ih =>
    obtain ⟨first, rfl⟩ := each v List.mem_cons_self
    obtain ⟨others, rfl⟩ := ih fun other member => each other (List.mem_cons_of_mem _ member)
    exact ⟨first :: others, rfl⟩

theorem letters_eq_nil {s : String} (none : Text.letters s = []) : s = "" := by
  have silent : Text.codesOf s.toList = [] := List.map_eq_nil_iff.mp none
  apply String.toList_inj.mp
  cases letters : s.toList with
  | nil => rfl
  | cons c rest =>
    rw [letters] at silent
    cases rest with
    | nil => cases silent
    | cons d rest =>
      unfold Text.codesOf at silent
      split at silent <;> cases silent

/-- The letters of a text are no tables, nor are the names in a table. -/
theorem holdsTables_of_members {fields : Fields} {name : String} {items : List Value}
    (members : Argument.membersOf fields name = .ok items) (each : ∀ v ∈ items, ∃ part, v = .obj part) :
    HoldsTables fields name := by
  intro v found
  simp only [Argument.membersOf, found, Option.getD_some] at members
  cases v with
  | list items =>
    cases members
    obtain ⟨parts, rfl⟩ := map_obj each
    exact Or.inl ⟨parts, rfl⟩
  | str s =>
    cases members
    cases letters : Text.letters s with
    | nil => exact Or.inr (Or.inl (congrArg Value.str (letters_eq_nil letters)))
    | cons letter rest =>
      obtain ⟨_, impossible⟩ := each (.str letter) (by simp [letters])
      cases impossible
  | obj parts =>
    cases members
    cases parts with
    | nil => exact Or.inr (Or.inr rfl)
    | cons part rest =>
      obtain ⟨_, impossible⟩ := each (.str part.1) (by simp)
      cases impossible
  | _ => cases members

theorem membersOf_misread {fields : Fields} {name : String} {fault : Fault}
    (failed : Argument.membersOf fields name = .error fault) : Misread fault := by
  unfold Argument.membersOf at failed
  cases v : (fields.get? name).getD (.list []) <;> rw [v] at failed <;> cases failed <;> exact .wrongType

/-- Where the members of a field are walked through, and each has to be a table, the field has to hold tables. -/
theorem members_read {γ : Type} {next : List Value → Except Fault γ} {legible : Fields → Prop} {told : List Value → γ}
    (walk : ∀ items, Reads (next items) (∀ v ∈ items, ∃ part, v = .obj part ∧ legible part) (told items))
    (fields : Fields) (name : String) : Reads (Argument.membersOf fields name >>= next) (HoldsEach legible fields name)
      (told ((tables fields name).map .obj)) := by
  unfold HoldsEach
  cases members : Argument.membersOf fields name with
  | error fault =>
    refine .error (fun holds => ?_) (membersOf_misread members)
    rw [holds.1.members] at members
    cases members
  | ok items =>
    change Reads (next items) _ _
    by_cases holds : HoldsTables fields name
    · rw [holds.members] at members
      cases members
      exact (walk _).weaken (by simp [holds])
    · have illegible : ¬∀ v ∈ items, ∃ part, v = .obj part ∧ legible part := by
        intro each
        apply holds (holdsTables_of_members members _)
        intro v member
        obtain ⟨part, table, _⟩ := each v member
        exact ⟨part, table⟩
      refine ⟨fun b => ?_, (walk items).misread⟩
      rw [(walk items).read b]
      simp only [illegible, holds, false_and]

theorem members_then {γ δ : Type} {next : List Value → Except Fault γ} {legible : Fields → Prop} {told : List Value → γ}
    {rest : γ → Except Fault δ} {q : Prop} {d : δ} {fields : Fields} {name : String}
    (walk : ∀ items, Reads (next items) (∀ v ∈ items, ∃ part, v = .obj part ∧ legible part) (told items))
    (other : HoldsEach legible fields name → Reads (rest (told ((tables fields name).map .obj))) q d) :
    Reads (Argument.membersOf fields name >>= fun items => next items >>= rest) (HoldsEach legible fields name ∧ q)
      d := by
  rw [← bind_assoc]
  exact (members_read walk fields name).bind other

theorem table_read {γ : Type} {next : Fields → Except Fault γ} {legible : Fields → Prop} {told : Fields → γ}
    (each : ∀ fields, Reads (next fields) (legible fields) (told fields)) (v : Value) :
    Reads (Argument.fields v >>= next) (∃ part, v = .obj part ∧ legible part) (told (tableIn v)) := by
  cases v with
  | obj fields => exact (each fields).weaken (by simp)
  | _ => exact .error (by simp) .noFields

/-- A value in the place of a text that may be missing. -/
def MaybeText (v : Value) : Prop := v = .null ∨ ∃ s, v = .str s

section
variable {p q : Prop} {a : α}

theorem Reads.seq {f : Check (α → β)} {check : Check α} {g : α → β} (first : Reads f.toExcept p g)
    (last : Reads check.toExcept q a) : Reads (f <*> check).toExcept (p ∧ q) (g a) := by
  cases f with
  | ok g' =>
    obtain ⟨one, rfl⟩ := first.legible
    cases check with
    | ok a' =>
      obtain ⟨other, rfl⟩ := last.legible
      exact .ok ⟨one, other⟩
    | _ => exact .error (fun both => last.illegible both.2) (last.misread _ rfl)
  | failed issues =>
    cases check with
    | broken halt => exact .error (fun both => last.illegible both.2) (last.misread _ rfl)
    | _ => exact .error (fun both => first.illegible both.1) (.invalidDocument _)
  | broken halt => exact .error (fun both => first.illegible both.1) (first.misread _ rfl)

theorem Reads.given {f : Check (α → β)} {g : α → β} (first : Reads f.toExcept p g) (a : α) :
    Reads (f <*> Check.ok a).toExcept p (g a) := by
  have known : Reads (Check.ok a).toExcept True a := .ok trivial
  exact (first.seq known).weaken (and_iff_left trivial).symm

theorem text_field (fields : Fields) (name : String) : Reads (withDefault fields [name] "" text).toExcept
    (∃ s, (fields.get? name).getD (.str "") = .str s) (((fields.get? name).getD (.str "")).str?.getD "") := by
  unfold withDefault orElse
  rw [present?_single]
  cases fields.get? name with
  | none => exact .ok ⟨"", rfl⟩
  | some v =>
    cases v with
    | str s => exact .ok ⟨s, rfl⟩
    | _ => exact .error (by simp) (.invalidDocument _)

theorem maybe_field (fields : Fields) (name : String) :
    Reads (withDefault fields [name] none (Schema.optional text)).toExcept (MaybeText ((fields.get? name).getD .null))
      ((fields.get? name).getD .null).str? := by
  unfold withDefault orElse
  rw [present?_single]
  cases fields.get? name with
  | none => exact .ok (Or.inl rfl)
  | some v =>
    cases v with
    | null => exact .ok (Or.inl rfl)
    | str s => exact .ok (Or.inr ⟨s, rfl⟩)
    | _ => exact .error (by simp [MaybeText]) (.invalidDocument _)

/-- The event of a document as messages make them, in which any value may stand. -/
theorem event_read (address : String) (text reply device name contact id : Value) :
    let document : Fields := [("channel_address", .str address), ("kind", .str "message"), ("text", text),
      ("reply_id", reply), ("device_id", device), ("contact_name", name), ("contact_id", contact), ("message_id", id)]
    Reads (Event.ofValue (.obj document)).toExcept
      ((∃ s, text = .str s) ∧ MaybeText reply ∧ MaybeText device ∧ MaybeText name ∧ MaybeText contact ∧ MaybeText id)
      { address, text := text.str?.getD "", replyId := reply.str?, deviceId := device.str?, contactName := name.str?,
        contactId := contact.str?, messageId := id.str? } := by
  intro document
  have named : Reads (Event.mk <$> required document ["channel_address"] Schema.text).toExcept True
      (Event.mk address) := .ok trivial
  have read := named.given .message |>.seq (text_field document "text") |>.seq (maybe_field document "reply_id")
    |>.seq (maybe_field document "device_id") |>.seq (maybe_field document "contact_name")
    |>.seq (maybe_field document "contact_id") |>.seq (maybe_field document "message_id")
    |>.given none |>.given none |>.given []
  rw [true_and, and_assoc, and_assoc, and_assoc, and_assoc] at read
  exact read

end

section
variable (message value : Fields)

/-- The button that was pressed or the entry that was chosen. -/
def pressed : Fields :=
  let interactive := part message "interactive"
  if (part interactive "button_reply").isEmpty then part interactive "list_reply" else part interactive "button_reply"

/-- The text of a message and the id of what was pressed, as they stand in it. -/
def said : Value × Value :=
  match (message.get? "type").getD .null with
  | .str "text" => (((part message "text").get? "body").getD (.str ""), .null)
  | .str "interactive" => (((pressed message).get? "title").getD (.str ""), ((pressed message).get? "id").getD .null)
  | .str "button" =>
    (((part message "button").get? "text").getD (.str ""), ((part message "button").get? "payload").getD .null)
  | .str kind =>
    if ["image", "video", "document"].contains kind then (((part message kind).get? "caption").getD (.str ""), .null)
    else (.str "", .null)
  | _ => (.str "", .null)

/-- The parts of a message that are looked into are tables, where there are any. -/
def LegibleContent : Prop :=
  match (message.get? "type").getD .null with
  | .str "text" => HoldsTable message "text"
  | .str "interactive" => HoldsTable message "interactive" ∧
      HoldsTable (part message "interactive") "button_reply" ∧
      (part (part message "interactive") "button_reply" = [] → HoldsTable (part message "interactive") "list_reply")
  | .str "button" => HoldsTable message "button"
  | .str kind => ["image", "video", "document"].contains kind = true → HoldsTable message kind
  | _ => True

theorem either_read {v : Value} {other : Except Fault Fields} {legible : Prop} {told : Fields}
    (second : Reads other legible told) : Reads (if v.truthy then Argument.fields v else other)
      ((v.truthy = true → ∃ part, v = .obj part) ∧ (tableIn v = [] → legible))
      (if (tableIn v).isEmpty then told else tableIn v) := by
  cases counts : v.truthy with
  | false =>
    rw [tableIn_of_falsy counts]
    exact second.weaken (by simp)
  | true =>
    cases v with
    | obj fields =>
      have filled : fields ≠ [] := by simpa [Value.truthy] using counts
      simp only [tableIn, Value.fields?, Option.getD_some, List.isEmpty_iff, filled, if_true, if_false]
      exact .ok (by simp)
    | _ => exact .error (by simp) .noFields

theorem pressed_read : Reads
    (let pressed := ((part message "interactive").get? "button_reply").getD .null
      if pressed.truthy then Argument.fields pressed else tableOf (part message "interactive") "list_reply")
    (HoldsTable (part message "interactive") "button_reply" ∧
      (part (part message "interactive") "button_reply" = [] → HoldsTable (part message "interactive") "list_reply"))
    (pressed message) :=
  either_read (tableOf_read _ _)

theorem content_read : Reads (content message) (LegibleContent message) (said message) := by
  unfold content LegibleContent said
  generalize (message.get? "type").getD .null = kind
  split
  · exact .weaken (by simp) ((tableOf_read message "text").bind fun _ => .ok trivial)
  · refine (tableOf_read message "interactive").bind fun _ => ?_
    have joined : ∀ {c : Bool} {a b : Except Fault Fields} {next : Fields → Except Fault (Value × Value)},
        (if c then a >>= next else b >>= next) = (if c then a else b) >>= next := by
      intro c
      cases c <;> intros <;> rfl
    simp only [joined]
    exact .weaken (by simp) ((pressed_read message).bind fun _ => .ok trivial)
  · exact .weaken (by simp) ((tableOf_read message "button").bind fun _ => .ok trivial)
  · next kind notText notChoice notButton =>
    simp only []
    split
    next media =>
      refine .weaken ?_ ((tableOf_read message kind).bind fun _ => .ok trivial)
      exact ⟨fun holds => ⟨holds media, trivial⟩, fun holds _ => holds.1⟩
    next other => exact .ok fun media => absurd media other
  · next notText notChoice notButton noText =>
    simp only []
    exact .ok trivial

/-- The number and the name of a contact that has both. -/
def naming? (contact : Fields) : Option (Value × Value) :=
  let number := (contact.get? "wa_id").getD .null
  let name := ((part contact "profile").get? "name").getD .null
  if number.truthy && name.truthy then some (number, name) else none

def namings : List (Value × Value) :=
  (tables value "contacts").foldl (fun names contact => (naming? contact).toList ++ names) []

/-- A contact is legible if what it is known by can be a key. -/
def LegibleContact (contact : Fields) : Prop :=
  HoldsTable contact "profile" ∧ ∀ naming, naming? contact = some naming → Argument.isKey naming.1 = true

theorem contact_read (names : List (Value × Value)) (contact : Fields) :
    Reads (do
      let number := (contact.get? "wa_id").getD .null
      let name := ((← tableOf contact "profile").get? "name").getD .null
      if number.truthy && name.truthy then
        if Argument.isKey number then return (number, name) :: names else throw Fault.wrongType
      else return names) (LegibleContact contact) ((naming? contact).toList ++ names) := by
  refine (tableOf_read contact "profile").bind fun _ => ?_
  unfold naming?
  dsimp only
  split
  next filled =>
    simp only [Option.some.injEq, forall_eq', Option.toList_some, List.singleton_append]
    split
    next hashed => exact .ok hashed
    next unhashed => exact .error unhashed .wrongType
  next => exact .ok (by simp)

theorem contactNames_read : Reads (contactNames value)
    (HoldsEach LegibleContact value "contacts") (namings value) := by
  have walk : ∀ items : List Value, Reads (items.foldlM _ []) (∀ v ∈ items, ∃ part, v = .obj part ∧ LegibleContact part)
      (items.foldl (fun names v => (naming? (tableIn v)).toList ++ names) []) := fun items =>
    .foldlM (fun names v _ => table_read (contact_read names) v) []
  have read := members_read walk value "contacts"
  rw [List.foldl_map] at read
  exact read

def sender : Value := (message.get? "from").getD .null

def device : Value := ((part value "metadata").get? "phone_number_id").getD .null

def contactName : Value := nameOf (namings value) (sender message)

def messageId : Value := (message.get? "id").getD .null

/-- What a message with a sender has to be, so that it can be read. -/
structure LegibleMessage : Prop where
  content : LegibleContent message
  metadata : HoldsTable value "metadata"
  contacts : HoldsEach LegibleContact value "contacts"
  sender : ∃ s, sender message = .str s
  text : ∃ s, (said message).1 = .str s
  reply : MaybeText (said message).2
  device : MaybeText (device value)
  name : MaybeText (contactName message value)
  id : MaybeText (messageId message)

/-- The event of a message that has a sender. -/
def eventIn? : Option Event :=
  if (sender message).truthy then
    some {
      address := addressOf (sender message)
      text := (said message).1.str?.getD ""
      replyId := (said message).2.str?
      deviceId := (device value).str?
      contactName := (contactName message value).str?
      contactId := (sender message).str?
      messageId := (messageId message).str? }
  else none

theorem messageEvent_read : Reads (messageEvent (.obj message) value)
    ((sender message).truthy = true → LegibleMessage message value) (eventIn? message value) := by
  unfold messageEvent
  have table : Argument.fields (.obj message) = .ok message := rfl
  rw [table]
  change Reads (if !(sender message).truthy then pure none else _) _ _
  unfold eventIn?
  cases sent : (sender message).truthy with
  | false => exact .ok (by simp)
  | true =>
    simp only [Bool.not_true, Bool.false_eq_true, if_false, if_true, true_implies]
    have texts : (∃ s, sender message = .str s) ↔ MaybeText (sender message) := by
      refine ⟨Or.inr, fun maybe => maybe.resolve_left fun null => ?_⟩
      rw [null] at sent
      cases sent
    refine .weaken ?_ ((content_read message).bind fun _ => (tableOf_read value "metadata").bind fun _ =>
      (contactNames_read value).bind fun _ => (?_ : Reads _ ((∃ s, (said message).1 = .str s) ∧
        MaybeText (said message).2 ∧ MaybeText (device value) ∧ MaybeText (contactName message value) ∧
        MaybeText (sender message) ∧ MaybeText (messageId message)) _))
    · rw [← texts]
      constructor
      · intro ⟨content, metadata, contacts, sender, text, reply, device, name, id⟩
        exact ⟨content, metadata, contacts, text, reply, device, name, sender, id⟩
      · intro ⟨content, metadata, contacts, text, reply, device, name, sender, id⟩
        exact ⟨content, metadata, contacts, sender, text, reply, device, name, id⟩
    · change Reads (if !Argument.isKey (sender message) then _ else _) _ _
      cases hashed : Argument.isKey (sender message) with
      | true => exact .weaken (and_iff_left trivial).symm ((event_read _ _ _ _ _ _ _).bind fun _ => .ok trivial)
      | false =>
        refine .error (fun told => ?_) .wrongType
        obtain ⟨s, text⟩ := texts.mpr told.2.2.2.2.1
        rw [text] at hashed
        cases hashed

theorem message_read (v : Value) : Reads (messageEvent v value)
    (∃ message, v = .obj message ∧ ((sender message).truthy = true → LegibleMessage message value))
    (eventIn? (tableIn v) value) := by
  cases v with
  | obj message => exact (messageEvent_read message value).weaken (by simp)
  | _ => exact .error (by simp) .noFields

end

def isAboutMessages (change : Fields) : Bool :=
  match change.get? "field" with
  | some (.str "messages") => true
  | _ => false

/-- What a change has to be, so that it can be read; one that is about something else is not looked into. -/
def LegibleChange (change : Fields) : Prop :=
  isAboutMessages change = true → (∃ value, (change.get? "value").getD (.obj []) = .obj value) ∧
    HoldsTables (part change "value") "statuses" ∧ HoldsEach (fun message => (sender message).truthy = true →
      LegibleMessage message (part change "value")) (part change "value") "messages"

def eventsOfChange (change : Fields) : List Event :=
  if isAboutMessages change then
    (tables (part change "value") "messages").filterMap fun message => eventIn? message (part change "value")
  else []

theorem statuses_read (items : List Value) : Reads
    (forIn items PUnit.unit fun status _ => do
      let _ ← Argument.fields status
      pure (ForInStep.yield PUnit.unit))
    (∀ v ∈ items, ∃ part, v = .obj part ∧ True) () := by
  induction items with
  | nil => exact .ok (by simp)
  | cons v rest ih =>
    cases v with
    | obj fields =>
      rw [List.forIn_cons]
      exact ih.weaken (by simp)
    | _ => exact .error (by simp) .noFields

theorem changeEvents_read (change : Fields) :
    Reads (changeEvents (.obj change)) (LegibleChange change) (eventsOfChange change) := by
  have table : Argument.fields (.obj change) = .ok change := rfl
  unfold changeEvents
  rw [table]
  change Reads (match change.get? "field" with | some (.str "messages") => _ | _ => _) _ _
  unfold LegibleChange eventsOfChange isAboutMessages
  split
  · have same : tableIn ((change.get? "value").getD (.obj [])) = part change "value" := by
      unfold part
      cases change.get? "value" <;> rfl
    have value := fields_read ((change.get? "value").getD (.obj []))
    rw [same] at value
    simp only [if_true, true_implies]
    refine .weaken ?_ (value.bind fun _ => members_then statuses_read fun _ => members_then (fun items =>
      .mapM fun v _ => message_read _ v) fun _ => .telling ?_ (.ok trivial))
    · simp [HoldsEach]
    · simp [List.filterMap_map, tableIn, Value.fields?, Function.comp_def]
  · exact .ok (by simp)

theorem change_read (v : Value) : Reads (changeEvents v) (∃ change, v = .obj change ∧ LegibleChange change)
    (eventsOfChange (tableIn v)) := by
  cases v with
  | obj change => exact (changeEvents_read change).weaken (by simp)
  | _ => exact .error (by simp) .noFields

/-- Which deliveries can be read. -/
def LegibleDelivery (delivery : Value) : Prop :=
  ∃ fields, delivery = .obj fields ∧ HoldsEach (HoldsEach LegibleChange · "changes") fields "entry"

/-- The events of a delivery, one for each message that has a sender. -/
def eventsIn (delivery : Value) : List Event :=
  (tables (tableIn delivery) "entry").flatMap fun entry => (tables entry "changes").flatMap eventsOfChange

theorem entry_read (entry : Fields) : Reads (do
      let changes ← Argument.membersOf entry "changes"
      return (← changes.mapM changeEvents).flatten)
    (HoldsEach LegibleChange entry "changes") ((tables entry "changes").flatMap eventsOfChange) := by
  refine .weaken (and_iff_left trivial).symm (members_then (fun items => .mapM fun v _ => change_read v) fun _ =>
    .telling ?_ (.ok trivial))
  simp [List.flatMap, tableIn, Value.fields?, Function.comp_def]

theorem events_read (delivery : Value) :
    Reads (Webhook.events delivery) (LegibleDelivery delivery) (eventsIn delivery) := by
  cases delivery with
  | obj fields =>
    have read : Reads (Webhook.events (.obj fields))
        (HoldsEach (HoldsEach LegibleChange · "changes") fields "entry" ∧ True) (eventsIn (.obj fields)) := by
      refine members_then (fun items => .mapM fun v _ => table_read entry_read v) fun _ => .telling ?_ (.ok trivial)
      simp [eventsIn, List.flatMap, tableIn, Value.fields?, Function.comp_def]
    exact read.weaken (by simp [LegibleDelivery])
  | _ => exact .error (by simp [LegibleDelivery]) .noFields

end Chatflow.Proofs.LegibleDeliveries
