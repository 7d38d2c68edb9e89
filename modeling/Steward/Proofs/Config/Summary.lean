import Steward.Config.Agent
import Steward.Proofs.Text.Utf8

/-!
What the summary of a config gives away of the token. It shows the first four bytes of a token that has
more, and nothing of any other, so tokens that agree in this are summed up alike. Where the fourth byte
does not end a character there is no summary.
-/
namespace Steward

open Steward.Text

/-- A text can be cut behind so many bytes: a character ends there. -/
def CutsAt (n : Nat) (s : String) : Prop := ∃ front rest, s = front ++ rest ∧ (utf8 front).length = n

inductive Alike : String → String → Prop where
  | empty : Alike "" ""
  | short {s t : String} : 1 ≤ (utf8 s).length → (utf8 s).length ≤ 4 → 1 ≤ (utf8 t).length →
      (utf8 t).length ≤ 4 → Alike s t
  | long {s t : String} : 4 < (utf8 s).length → 4 < (utf8 t).length → (utf8 s).take 4 = (utf8 t).take 4 →
      Alike s t

namespace AgentConfig

section Cut
variable {n : Nat} {s t : String}

theorem length_bytes_cons (c : Char) (cs : List Char) :
    ((c :: cs).flatMap String.utf8EncodeChar).length =
      c.utf8Size + (cs.flatMap String.utf8EncodeChar).length := by
  rw [List.flatMap_cons, List.length_append, String.length_utf8EncodeChar]

theorem takeBytes?_eq_some {cs taken : List Char} : takeBytes? n cs = some taken ↔
    taken <+: cs ∧ (taken.flatMap String.utf8EncodeChar).length = n := by
  fun_induction takeBytes? n cs generalizing taken with
  | case1 cs =>
    cases taken with
    | nil => simp
    | cons d taken =>
      have positive := d.utf8Size_pos
      rw [length_bytes_cons]
      simp
      omega
  | case2 n =>
    simp only [List.prefix_nil]
    constructor
    · intro found
      cases found
    · rintro ⟨rfl, size⟩
      cases size
  | case3 n c cs fits ih =>
    rw [Option.map_eq_some_iff]
    constructor
    · rintro ⟨front, found, rfl⟩
      obtain ⟨start, size⟩ := ih.1 found
      refine ⟨List.cons_prefix_cons.2 ⟨rfl, start⟩, ?_⟩
      rw [length_bytes_cons, size]
      omega
    · rintro ⟨start, size⟩
      cases taken with
      | nil => cases size
      | cons d front =>
        obtain ⟨rfl, begins⟩ := List.cons_prefix_cons.1 start
        rw [length_bytes_cons] at size
        exact ⟨front, ih.2 ⟨begins, by omega⟩, rfl⟩
  | case4 n c cs across =>
    -- a text with this first character in it has too many bytes already
    constructor
    · intro found
      cases found
    · rintro ⟨start, size⟩
      cases taken with
      | nil => cases size
      | cons d front =>
        obtain ⟨rfl, -⟩ := List.cons_prefix_cons.1 start
        rw [length_bytes_cons] at size
        omega

theorem takeBytes?_toList {front : String} : takeBytes? n s.toList = some front.toList ↔
    (∃ rest, s = front ++ rest) ∧ (utf8 front).length = n := by
  rw [takeBytes?_eq_some, utf8_eq]
  refine and_congr_left fun _ => ⟨?_, ?_⟩
  · rintro ⟨rest, whole⟩
    exact ⟨String.ofList rest, String.toList_inj.1 (by rw [String.toList_append, String.toList_ofList, whole])⟩
  · rintro ⟨rest, rfl⟩
    exact ⟨rest.toList, String.toList_append.symm⟩

theorem cutsAt_iff : CutsAt n s ↔ ∃ taken, takeBytes? n s.toList = some taken := by
  constructor
  · rintro ⟨front, rest, whole, size⟩
    exact ⟨front.toList, takeBytes?_toList.2 ⟨⟨rest, whole⟩, size⟩⟩
  · rintro ⟨taken, found⟩
    rw [← String.toList_ofList (l := taken)] at found
    obtain ⟨⟨rest, whole⟩, size⟩ := takeBytes?_toList.1 found
    exact ⟨_, rest, whole, size⟩

/-- Whether a text can be cut behind some bytes, and what is cut off, is told by these bytes. -/
theorem takeBytes?_of_take_eq (same : (utf8 s).take n = (utf8 t).take n) :
    takeBytes? n s.toList = takeBytes? n t.toList := by
  have carried {s t : String} {taken : List Char} (same : (utf8 s).take n = (utf8 t).take n)
      (found : takeBytes? n s.toList = some taken) : takeBytes? n t.toList = some taken := by
    rw [← String.toList_ofList (l := taken)] at found ⊢
    obtain ⟨⟨rest, rfl⟩, size⟩ := takeBytes?_toList.1 found
    refine takeBytes?_toList.2 ⟨exists_eq_append_of_utf8 ?_, size⟩
    rw [utf8_append, List.take_left' size] at same
    rw [same]
    exact List.take_prefix _ _
  refine Option.ext fun taken => ⟨carried same, carried same.symm⟩

end Cut

section Mask
variable {s t : String}

theorem mask_of_long (long : 4 < (utf8 s).length) : mask s = match takeBytes? 4 s.toList with
    | some cs => .ok (String.ofList cs ++ "****")
    | none => .error .splitCharacter := by
  unfold mask
  exact (if_neg (by omega)).trans (if_neg (by omega))

theorem mask_of_short (least : 1 ≤ (utf8 s).length) (short : (utf8 s).length ≤ 4) : mask s = .ok "****" := by
  unfold mask
  exact (if_neg (by omega)).trans (if_pos short)

theorem exists_mask_iff : (∃ shown, mask s = .ok shown) ↔ (utf8 s).length ≤ 4 ∨ CutsAt 4 s := by
  by_cases long : 4 < (utf8 s).length
  · rw [mask_of_long long, or_iff_right (Nat.not_le.2 long), cutsAt_iff]
    cases takeBytes? 4 s.toList with
    | none => simp
    | some cs => simp
  · refine iff_of_true ?_ (.inl (Nat.not_lt.1 long))
    rcases Nat.eq_zero_or_pos (utf8 s).length with none | least
    · exact ⟨"(empty)", if_pos none⟩
    · exact ⟨"****", mask_of_short least (Nat.not_lt.1 long)⟩

theorem mask_eq_of_alike (alike : Alike s t) : mask s = mask t := by
  cases alike with
  | empty => rfl
  | short least most least' most' => rw [mask_of_short least most, mask_of_short least' most']
  | long more more' same => rw [mask_of_long more, mask_of_long more', takeBytes?_of_take_eq same]

end Mask

section Summary
variable {c : AgentConfig} {token : String}

theorem exists_summary_iff : (∃ text, c.summary = .ok text) ↔ ∃ shown, mask c.token = .ok shown := by
  unfold summary
  cases mask c.token with
  | error abort => exact iff_of_false (fun ⟨_, made⟩ => nomatch made) (fun ⟨_, made⟩ => nomatch made)
  | ok shown => exact iff_of_true ⟨_, rfl⟩ ⟨shown, rfl⟩

theorem summary_eq_of_mask_eq (same : mask c.token = mask token) :
    { c with token }.summary = c.summary := by
  unfold summary
  dsimp only
  rw [same]

end Summary

/-- There is a summary exactly if the token has no more than four bytes or can be cut behind the fourth, and
it is the same for all tokens that are alike. -/
theorem summary_tells_four_bytes (c : AgentConfig) :
    ((∃ text, c.summary = .ok text) ↔ (utf8 c.token).length ≤ 4 ∨ CutsAt 4 c.token) ∧
    ∀ token, Alike c.token token → { c with token }.summary = c.summary := by
  constructor
  · rw [exists_summary_iff, exists_mask_iff]
  · intro token alike
    exact summary_eq_of_mask_eq (mask_eq_of_alike alike)

theorem summary_tells_four_bytes_common :
    let c := minimal "a1" "https://rmm" "tok-one" "tls://rmm"
    (c.check = .ok () ∧ Alike c.token "tok-zwei") ∧ (∃ text, c.summary = .ok text) ∧
      { c with token := "tok-zwei" }.summary = c.summary := by
  have usable : (minimal "a1" "https://rmm" "tok-one" "tls://rmm").check = .ok () := rfl
  intro c
  have alike : Alike c.token "tok-zwei" := .long (by decide) (by decide) (by decide)
  obtain ⟨complete, same⟩ := summary_tells_four_bytes c
  exact ⟨⟨usable, alike⟩, complete.2 (.inr ⟨"tok-", "one", by decide, by decide⟩), same _ alike⟩

/-- A usable config whose token has the first byte of a longer character in the fourth place. -/
theorem splitToken_aborts :
    (minimal "a1" "https://rmm" "aaaé" "tls://rmm").check = .ok () ∧
      (minimal "a1" "https://rmm" "aaaé" "tls://rmm").summary = .error .splitCharacter := by
  have uncut : takeBytes? 4 "aaaé".toList = none := by simp [takeBytes?, Char.utf8Size]
  have masked : mask "aaaé" = .error .splitCharacter := by rw [mask_of_long (by decide), uncut]
  refine ⟨rfl, ?_⟩
  rw [summary, minimal, masked]
  rfl

end AgentConfig
end Steward
