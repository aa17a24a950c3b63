import Chatflow.Proofs.HandOffs
import Chatflow.Proofs.ResolvedReplies

/-! Payloads as agents write them: after the marker, with blanks around them, and as often as not in a code fence. None of
that is part of a payload, and nothing that stands in a payload is taken for it. -/

namespace Chatflow.Proofs.WrittenPayloads
open Text Handoff HandOffs AgentConversations ResolvedReplies

variable {cs : List Char}

/-- A text with blanks around it. -/
def Surrounded (cs text : List Char) : Prop :=
  ∃ before after, (∀ c ∈ before, isBlank c = true) ∧ (∀ c ∈ after, isBlank c = true) ∧ text = before ++ cs ++ after

/-- The ways to write a payload: as it stands, or in a code fence, which may have a tag. There may be blanks around the
payload and around the fence. -/
inductive Written (payload : List Char) : List Char → Prop where
  | bare {text} (around : Surrounded payload text) : Written payload text
  | fenced {tag inner text} (tagged : tag = [] ∨ tag.map Char.toLower = ['j', 's', 'o', 'n']) (inside : Surrounded payload inner)
      (around : Surrounded (Handoff.fence ++ tag ++ inner ++ Handoff.fence) text) : Written payload text

/-- A text in braces. -/
structure Braced (payload : List Char) : Prop where
  opens : payload.head? = some '\x7b'
  closes : payload.getLast? = some '\x7d'

variable {payload text tag : List Char}

namespace Braced

theorem written (braced : Braced payload) : payload ≠ [] := by
  rintro rfl
  cases braced.opens

theorem begins (braced : Braced payload) : ∀ c ∈ payload.head?, isBlank c = false := by
  intro c member
  cases braced.opens.symm.trans member
  decide

theorem ends (braced : Braced payload) : ∀ c ∈ payload.getLast?, isBlank c = false := by
  intro c member
  cases braced.closes.symm.trans member
  decide

theorem trimChars (braced : Braced payload) (around : Surrounded payload text) : trimChars text = payload := by
  obtain ⟨before, after, blankBefore, blankAfter, rfl⟩ := around
  exact trimChars_surrounded braced.written braced.begins braced.ends blankBefore blankAfter

end Braced

theorem dropOpening_plain (plain : cs.head? ≠ some '\x60') : dropOpening cs = cs := by
  have other : fence.isPrefixOf cs = false := by
    cases cs with
    | nil => rfl
    | cons c rest =>
      have different : ('\x60' == c) = false := beq_eq_false_iff_ne.mpr fun same => plain (by rw [← same]; rfl)
      simp only [fence, List.isPrefixOf, different, Bool.false_and]
  rw [Handoff.dropOpening, other, if_neg Bool.false_ne_true]

theorem dropClosing_plain (plain : cs.getLast? ≠ some '\x60') : dropClosing cs = cs := by
  have other : fence.isSuffixOf cs = false := by
    refine Bool.eq_false_iff.mpr fun closes => plain ?_
    obtain ⟨front, rfl⟩ := List.isSuffixOf_iff_suffix.mp closes
    simp only [fence, List.getLast?_append, List.getLast?_cons_cons, List.getLast?_singleton, Option.some_or]
  rw [Handoff.dropClosing, other, if_neg Bool.false_ne_true]

theorem dropOpening_fence (cs : List Char) : dropOpening (fence ++ cs) = trimLeft (dropTag cs) := rfl

theorem dropClosing_fence (cs : List Char) : dropClosing (cs ++ fence) = trimRight cs := by
  have fenced : fence.isSuffixOf (cs ++ fence) = true := List.isSuffixOf_iff_suffix.mpr (List.suffix_append cs fence)
  have front : (cs ++ fence).length - 3 = cs.length := by
    rw [List.length_append]
    rfl
  rw [dropClosing, fenced, if_pos rfl, front, List.take_left]

/-- The tag of a fence is left out, in whatever case it is written. -/
theorem dropTag_json (tagged : tag.map Char.toLower = ['j', 's', 'o', 'n']) (cs : List Char) : dropTag (tag ++ cs) = cs := by
  obtain ⟨j, tag, rfl, isJ, tagged⟩ := List.map_eq_cons_iff.mp tagged
  obtain ⟨s, tag, rfl, isS, tagged⟩ := List.map_eq_cons_iff.mp tagged
  obtain ⟨o, tag, rfl, isO, tagged⟩ := List.map_eq_cons_iff.mp tagged
  obtain ⟨n, tag, rfl, isN, tagged⟩ := List.map_eq_cons_iff.mp tagged
  cases List.map_eq_nil_iff.mp tagged
  simp [dropTag, isTagLetter, isJ, isS, isO, isN]

theorem not_isBlank_of_tag {c : Char} (letter : c.toLower = 'j') : isBlank c = false := by
  refine Bool.eq_false_iff.mpr fun blank => ?_
  have place := place_of_isBlank blank
  unfold Char.toLower at letter
  split at letter
  next capital =>
    have low := UInt32.le_iff_toNat_le.mp capital.1
    have high := UInt32.le_iff_toNat_le.mp capital.2
    simp only [Char.toNat] at place
    rcases place with small | ⟨wide, _⟩
    · exact absurd (Nat.le_trans low small) (by decide)
    · exact absurd (Nat.le_trans wide high) (by decide)
  next =>
    subst letter
    exact absurd blank (by decide)

theorem dropTag_plain (plain : ∀ c ∈ cs.head?, c.toLower ≠ 'j') : dropTag cs = cs := by
  unfold dropTag
  split
  next j s o n rest =>
    have other : isTagLetter 'j' j = false := by simp [isTagLetter, plain j rfl]
    simp [other]
  next => rfl

theorem Braced.unfence_bare (braced : Braced payload) (around : Surrounded payload text) : unfence text = payload := by
  have plain : Surrounded payload payload := ⟨[], [], by simp, by simp, by simp⟩
  have opening : payload.head? ≠ some '\x60' := by
    rw [braced.opens]
    decide
  have closing : payload.getLast? ≠ some '\x60' := by
    rw [braced.closes]
    decide
  rw [unfence, braced.trimChars around, dropOpening_plain opening, dropClosing_plain closing, braced.trimChars plain]

/-- What stands between an opening and a closing fence is what is left. -/
theorem Braced.unfence_fenced {inner : List Char} (braced : Braced payload)
    (tagged : tag = [] ∨ tag.map Char.toLower = ['j', 's', 'o', 'n']) (inside : Surrounded payload inner)
    (around : Surrounded (fence ++ tag ++ inner ++ fence) text) : unfence text = payload := by
  have plain : Surrounded payload payload := ⟨[], [], by simp, by simp, by simp⟩
  have trimmed : Text.trimChars text = fence ++ tag ++ inner ++ fence := by
    obtain ⟨before, after, blankBefore, blankAfter, rfl⟩ := around
    refine trimChars_surrounded (by simp [fence]) (fun c member => ?_) (fun c member => ?_) blankBefore blankAfter
    · cases (show _ = some c from member)
      rfl
    · simp only [fence, List.getLast?_append, List.getLast?_cons_cons, List.getLast?_singleton, Option.some_or] at member
      cases Option.mem_some_iff.mp member
      rfl
  obtain ⟨before, after, blankBefore, blankAfter, rfl⟩ := inside
  have untagged : dropTag (tag ++ (before ++ payload ++ after ++ fence)) = before ++ payload ++ after ++ fence := by
    rcases tagged with rfl | tagged
    · refine dropTag_plain fun c first letter => ?_
      cases before with
      | nil =>
        obtain ⟨rest, rfl⟩ := List.head?_eq_some_iff.mp braced.opens
        cases Option.mem_some_iff.mp first
        exact absurd letter (by decide)
      | cons d others =>
        cases Option.mem_some_iff.mp first
        exact absurd (blankBefore _ List.mem_cons_self) (by rw [not_isBlank_of_tag letter]; decide)
    · exact dropTag_json tagged _
  have opened : Handoff.dropOpening (fence ++ tag ++ (before ++ payload ++ after) ++ fence) = payload ++ after ++ fence := by
    rw [List.append_assoc, List.append_assoc, dropOpening_fence, untagged, List.append_assoc, List.append_assoc,
      trimLeft_append blankBefore, List.append_assoc]
    rw [List.head?_append, List.head?_eq_some_head braced.written, Option.some_or, ← List.head?_eq_some_head braced.written]
    exact braced.begins
  rw [unfence, trimmed, opened, dropClosing_fence, trimRight_append braced.ends blankAfter, braced.trimChars plain]

theorem Written.unfence (written : Written payload text) (braced : Braced payload) : Handoff.unfence text = payload := by
  cases written with
  | bare around => exact braced.unfence_bare around
  | fenced tagged inside around => exact braced.unfence_fenced tagged inside around

/-- A completion is split at its first marker, and a payload in braces behind it comes out as it is, whatever stands in it and
however it is written. -/
theorem payload_comes_out_as_written {visible payload text : String}
    (first : FirstAt marker.toList (visible ++ marker).toList visible.toList []) (braced : Braced payload.toList)
    (written : Written payload.toList text.toList) :
    Handoff.split (visible ++ marker ++ text) = (trim visible, some payload) := by
  rw [String.toList_append] at first
  have here := (first.followed text.toList).cut?
  simp only [Handoff.split, String.toList_append, here, written.unfence braced, String.ofList_toList]
  rfl

theorem marked_payload_comes_out :
    let payload := "\x7b\"note\": \"```###HANDOFF###```\"\x7d"
    Handoff.split ("Gracias!\n" ++ marker ++ ("\n```JSON\n" ++ payload ++ "\n```\n")) = ("Gracias!", some payload) := by
  intro payload
  have first : FirstAt marker.toList ("Gracias!\n" ++ marker).toList "Gracias!\n".toList [] :=
    cut?_firstAt (by decide +kernel)
  have braced : Braced payload.toList := ⟨by decide +kernel, by decide +kernel⟩
  have blank : ∀ c ∈ ['\n'], isBlank c = true := List.forall_mem_singleton.mpr (by decide)
  have written : Written payload.toList ("\n```JSON\n" ++ payload ++ "\n```\n").toList :=
    .fenced (Or.inr (show "JSON".toList.map Char.toLower = _ by decide +kernel)) ⟨['\n'], ['\n'], blank, blank, rfl⟩
      ⟨['\n'], ['\n'], blank, blank, by decide +kernel⟩
  rw [payload_comes_out_as_written first braced written]
  decide +kernel

end Chatflow.Proofs.WrittenPayloads
