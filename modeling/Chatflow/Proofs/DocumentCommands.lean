import Chatflow.Proofs.ConfirmedResets
import Chatflow.Proofs.IdleWork

/-! Commands of the document database: which documents they return, and what they leave of those of sessions. One that is
refused or cannot be carried out leaves all as it is. -/

namespace Chatflow.Proofs.DocumentCommands
open Documents GuardedCalls WorkingDatabase ConfirmedResets IdleWork WorkLogic

variable {α : Type} {setup : Setup} {w after : World}

theorem select_mem {filter : Filter} {documents selected : List Fields} (done : select filter documents = .ok selected) :
    ∀ document ∈ selected, document ∈ documents := by
  induction documents generalizing selected with
  | nil =>
    cases done
    exact fun _ impossible => by cases impossible
  | cons first rest ih =>
    obtain ⟨passes, _, done⟩ := produced_of_ok done
    obtain ⟨others, chosen, done⟩ := produced_of_ok done
    cases done
    intro document member
    split at member
    · rcases List.mem_cons.mp member with rfl | inside
      · exact List.mem_cons_self
      · exact List.mem_cons_of_mem _ (ih chosen document inside)
    · exact List.mem_cons_of_mem _ (ih chosen document member)

theorem revise_mem {filter : Filter} {many : Bool} {f : Fields → Option Fields} {documents left : List Fields} {n : Nat}
    (done : revise filter many f documents = .ok (n, left)) :
    ∀ document ∈ left, document ∈ documents ∨ ∃ former ∈ documents, f former = some document := by
  induction documents generalizing left n with
  | nil =>
    cases done
    exact fun _ impossible => by cases impossible
  | cons first rest ih =>
    have later : ∀ {others n}, revise filter many f rest = .ok (n, others) → ∀ document ∈ others,
        document ∈ first :: rest ∨ ∃ former ∈ first :: rest, f former = some document := by
      intro others n done document member
      rcases ih done document member with inside | ⟨former, inside, revised⟩
      · exact Or.inl (List.mem_cons_of_mem _ inside)
      · exact Or.inr ⟨former, List.mem_cons_of_mem _ inside, revised⟩
    obtain ⟨passes, _, done⟩ := produced_of_ok done
    split at done
    · have revised : ∀ document ∈ (f first).toList,
          document ∈ first :: rest ∨ ∃ former ∈ first :: rest, f former = some document := by
        intro document here
        exact Or.inr ⟨first, List.mem_cons_self, Option.mem_toList.mp here⟩
      cases many with
      | true =>
        simp only [if_true] at done
        obtain ⟨⟨n, others⟩, tried, done⟩ := produced_of_ok done
        cases done
        exact List.forall_mem_append.mpr ⟨revised, later tried⟩
      | false =>
        cases done
        exact List.forall_mem_append.mpr ⟨revised, fun document there => Or.inl (List.mem_cons_of_mem _ there)⟩
    · obtain ⟨⟨n, others⟩, tried, done⟩ := produced_of_ok done
      cases done
      intro document member
      rcases List.mem_cons.mp member with rfl | there
      · exact Or.inl List.mem_cons_self
      · exact later tried document there

theorem mapM_mem {β : Type} {f : β → Except Fault α} {items : List β} {made : List α}
    (done : items.mapM f = .ok made) : ∀ a ∈ made, ∃ b ∈ items, f b = .ok a := by
  obtain ⟨counted, each⟩ := mapM_results done
  intro a member
  obtain ⟨k, inside, rfl⟩ := List.getElem_of_mem member
  have placed : k < items.length := counted ▸ inside
  obtain ⟨other, same, there⟩ := each k items[k] (List.getElem?_eq_getElem placed)
  rw [List.getElem?_eq_getElem inside] at there
  cases there
  exact ⟨_, List.getElem_mem placed, same⟩

theorem sort_mem {order : Order} {documents sorted : List Fields} (done : sort order documents = .ok sorted) :
    ∀ document ∈ sorted, document ∈ documents := by
  unfold sort at done
  split at done
  · cases done
    exact fun _ member => member
  · obtain ⟨pairs, keyed, done⟩ := produced_of_ok done
    dsimp only at done
    cases comparable : (pairs.map (·.1)).all fun a => (pairs.map (·.1)).all a.comparable with
    | true =>
      rw [comparable] at done
      cases done
      intro document member
      obtain ⟨pair, inside, rfl⟩ := List.mem_map.mp member
      obtain ⟨former, stored, made⟩ := mapM_mem keyed pair (List.mem_mergeSort.mp inside)
      split at made <;> cases made
      exact stored
    | false =>
      rw [comparable] at done
      cases done

/-- To delete documents keeps the others in their order. -/
theorem revise_sublist {filter : Filter} {many : Bool} {documents left : List Fields} {n : Nat}
    (done : revise filter many (fun _ => none) documents = .ok (n, left)) : left.Sublist documents := by
  induction documents generalizing left n with
  | nil =>
    cases done
    exact .slnil
  | cons first rest ih =>
    obtain ⟨passes, _, done⟩ := produced_of_ok done
    split at done
    · cases many with
      | true =>
        simp only [if_true] at done
        obtain ⟨⟨n, others⟩, tried, done⟩ := produced_of_ok done
        cases done
        exact (ih tried).cons first
      | false =>
        cases done
        exact List.sublist_cons_self first rest
    · obtain ⟨⟨n, others⟩, tried, done⟩ := produced_of_ok done
      cases done
      exact (ih tried).cons_cons first

/-- A command has touched at most the outside, and of the documents of sessions what it touches when it is carried out. -/
structure Commanded (c : Documents.Command) (w after : World) : Prop where
  inside : after = { w with outside := after.outside }
  documents : sessionDocuments after = sessionDocuments w ∨ ∃ reply collections,
    Server.execute w.outside.database.collections c = .ok (reply, collections) ∧
      sessionDocuments after = documentsOf collections Sessions.collection

theorem perform_collections (c : Documents.Command) (database : Server) :
    (database.perform c).2.collections = database.collections ∨ ∃ reply,
      Server.execute database.collections c = .ok (reply, (database.perform c).2.collections) := by
  simp only [Server.perform]
  split
  · exact Or.inl rfl
  · split
    next reply collections done => exact Or.inr ⟨reply, done⟩
    · exact Or.inl rfl

theorem commanded_of_perform {c : Documents.Command} (inside : after = { w with outside := after.outside })
    (performed : after.outside.database = (w.outside.database.perform c).2) : Commanded c w after := by
  refine ⟨inside, ?_⟩
  unfold sessionDocuments
  rw [performed]
  rcases perform_collections c w.outside.database with same | ⟨reply, done⟩
  · exact Or.inl (by rw [same])
  · exact Or.inr ⟨reply, _, done, rfl⟩

theorem command_commanded (c : Documents.Command) (w : World) : Commanded c w (Work.tryOutside (command c) w).2 :=
  commanded_of_perform rfl rfl

/-- A command that was answered was carried out. -/
theorem command_executed {c : Documents.Command} {reply : Documents.Reply}
    (done : (Work.tryOutside (command c) w).1 = .ok reply) :
    Server.execute w.outside.database.collections c =
      .ok (reply, (Work.tryOutside (command c) w).2.outside.database.collections) := by
  simp only [Work.tryOutside, command, Server.perform] at done ⊢
  split at done
  · cases done
  next unreached =>
    rw [if_neg unreached]
    split at done
    next executed =>
      cases done
      rw [executed]
    · cases done

theorem guarded_commanded (c : Documents.Command) (read : Documents.Reply → α) (fallback : α) (w : World) :
    Commanded c w (Work.onOutside (guarded setup (.ok c) read fallback) w).2 := by
  cases refused : refuses setup w.outside with
  | true =>
    obtain ⟨cache, called⟩ := guarded_refused refused (.ok c) read fallback
    simp only [Work.onOutside, called]
    exact ⟨rfl, Or.inl rfl⟩
  | false =>
    obtain ⟨cache, called⟩ := guarded_admitted refused c read fallback
    simp only [Work.onOutside, called]
    exact commanded_of_perform rfl rfl

/-- What is found are documents that are stored. -/
theorem findOne_mem {filter : Filter} {order : Option Order} {documents : List Fields}
    (found : (Work.onOutside
      (guarded setup (.ok (.findOne Sessions.collection filter order)) Reply.documents? []) w).1 = .ok documents) :
    ∀ document ∈ documents, document ∈ sessionDocuments w := by
  have executed : ∀ {reply collections}, Server.execute w.outside.database.collections
      (.findOne Sessions.collection filter order) = .ok (reply, collections) →
      ∀ document ∈ Reply.documents? reply, document ∈ sessionDocuments w := by
    intro reply collections done
    simp only [Server.execute, bind, Except.bind] at done
    split at done
    · cases done
    next selected chosen =>
      split at done
      · cases done
      next sorted ordered =>
        cases done
        intro document member
        have inside : document ∈ sorted := List.mem_of_mem_head? (Option.mem_toList.mp member)
        apply select_mem chosen
        cases order with
        | none => cases ordered; exact inside
        | some order => exact sort_mem ordered document inside
  cases refused : refuses setup w.outside with
  | true =>
    obtain ⟨cache, called⟩ := guarded_refused refused (.ok (.findOne Sessions.collection filter order))
      Reply.documents? []
    simp only [Work.onOutside, called] at found
    cases found
    exact fun _ impossible => by cases impossible
  | false =>
    obtain ⟨cache, called⟩ := guarded_admitted refused (.findOne Sessions.collection filter order) Reply.documents? []
    simp only [Work.onOutside, called, Server.perform] at found
    split at found
    · cases found
      exact fun _ impossible => by cases impossible
    · split at found
      next done => cases found; exact executed done
      · cases found
        exact fun _ impossible => by cases impossible

theorem insert_leaves {collections after : Collections} {reply : Documents.Reply} {document : Fields}
    (done : Server.execute collections (.insert Sessions.collection document) = .ok (reply, after)) :
    documentsOf after Sessions.collection = documentsOf collections Sessions.collection ++ [document] := by
  cases done
  rw [documentsOf_setDocuments]

theorem delete_leaves {collections after : Collections} {reply : Documents.Reply} {filter : Filter} {many : Bool}
    (done : Server.execute collections (.delete Sessions.collection filter many) = .ok (reply, after)) :
    (documentsOf after Sessions.collection).Sublist (documentsOf collections Sessions.collection) := by
  obtain ⟨⟨n, left⟩, revised, done⟩ := produced_of_ok done
  cases done
  rw [documentsOf_setDocuments]
  exact revise_sublist revised

theorem update_leaves {collections after : Collections} {reply : Documents.Reply} {filter : Filter} {changes : Fields}
    {many : Bool}
    (done : Server.execute collections (.update Sessions.collection filter changes many) = .ok (reply, after)) :
    ∃ n, revise filter many (fun document => some (document.merge changes))
      (documentsOf collections Sessions.collection) = .ok (n, documentsOf after Sessions.collection) := by
  obtain ⟨⟨n, left⟩, revised, done⟩ := produced_of_ok done
  cases done
  refine ⟨n, ?_⟩
  rw [documentsOf_setDocuments]
  exact revised

end Chatflow.Proofs.DocumentCommands
