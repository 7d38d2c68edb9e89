import Steward.Json.Printer
import Steward.Json.Reader
import Steward.Proofs.Text.Numeral

/-!
Written JSON reads back. `Reads depth v` says that the text of `v`, whatever ends the value behind it,
is read as `v` within that depth of nesting. It holds of null, of texts, of integers of 64 bits, and of
an object when it holds of the members with one level less.
-/
namespace Steward.Json
open Steward.Text

/-- What may stand behind a value: nothing, or a mark that goes on or ends its list or object. -/
def Closes (rest : List Char) : Prop := ∀ c ∈ rest.head?, c = ',' ∨ c = ']' ∨ c = '\x7d'

theorem closes_cons {c : Char} (mark : c = ',' ∨ c = ']' ∨ c = '\x7d') (rest : List Char) :
    Closes (c :: rest) := by
  intro d here
  cases here
  exact mark

theorem Closes.noDigit {rest : List Char} (closes : Closes rest) : NoDigit rest := by
  intro c here
  rcases closes c here with rfl | rfl | rfl <;> rfl

def Reads (depth : Nat) (v : Value) : Prop :=
  ∀ rest, Closes rest → readValue? depth (v.write.toList ++ rest) = some (v, rest)

section Text

theorem readUnit?_low {n : Nat} (small : n < 0x20) (rest : List Char) :
    readUnit? ('0' :: '0' :: hexDigit (n / 16) :: hexDigit (n % 16) :: rest) = some (n, rest) := by
  have zero : hexDigitValue? '0' = some 0 := rfl
  have high : hexDigitValue? (hexDigit (n / 16)) = some (n / 16) :=
    hexDigitValue?_hexDigit (by omega)
  have low : hexDigitValue? (hexDigit (n % 16)) = some (n % 16) := hexDigitValue?_hexDigit (by omega)
  have value : ((0 * 16 + 0) * 16 + n / 16) * 16 + n % 16 = n := by omega
  rw [readUnit?, zero, high, low]
  exact congrArg some (congrArg (·, rest) value)

theorem readEscape?_control {c : Char} (control : c.toNat < 0x20) (rest : List Char) :
    readEscape? ('u' :: '0' :: '0' :: hexDigit (c.toNat / 16) :: hexDigit (c.toNat % 16) :: rest) =
      some (c, rest) := by
  have low : ¬(0xDC00 ≤ c.toNat ∧ c.toNat ≤ 0xDFFF) := by omega
  have high : ¬(0xD800 ≤ c.toNat ∧ c.toNat ≤ 0xDBFF) := by omega
  rw [readEscape?, readEscapedUnit?, readUnit?_low control]
  simp only [Option.bind_eq_bind, Option.bind_some, if_neg low, if_neg high, Char.ofNat_toNat]

theorem writtenChar_spec (c : Char) :
    (∃ escape, (writtenChar c).toList = '\\' :: escape ∧
        ∀ rest, readEscape? (escape ++ rest) = some (c, rest)) ∨
      (writtenChar c).toList = [c] ∧ c ≠ '"' ∧ c ≠ '\\' ∧ ¬c.toNat < 0x20 := by
  by_cases named : c = '"' ∨ c = '\\' ∨ c = '\n' ∨ c = '\r' ∨ c = '\t' ∨ c = Char.ofNat 8 ∨
      c = Char.ofNat 12
  · left
    rcases named with rfl | rfl | rfl | rfl | rfl | rfl | rfl <;>
      exact ⟨_, rfl, fun _ => rfl⟩
  · simp only [not_or] at named
    obtain ⟨quote, slash, line, back, tab, bell, feed⟩ := named
    simp only [writtenChar, quote, slash, line, back, tab, bell, feed, if_false]
    by_cases control : c.toNat < 0x20
    · left
      rw [if_pos control, String.toList_append, String.toList_ofList, String.toList_ofList]
      exact ⟨['u', '0', '0', hexDigit (c.toNat / 16), hexDigit (c.toNat % 16)], rfl,
        readEscape?_control control⟩
    · right
      rw [if_neg control]
      exact ⟨String.toList_singleton c, quote, slash, control⟩

theorem readTextBody?_writtenChar (fuel : Nat) (done : List Char) (c : Char) (rest : List Char) :
    readTextBody? (fuel + 1) done ((writtenChar c).toList ++ rest) =
      readTextBody? fuel (c :: done) rest := by
  rcases writtenChar_spec c with ⟨escape, written, read⟩ | ⟨written, quote, slash, control⟩
  · rw [written, List.cons_append]
    simp only [readTextBody?, read]
  · rw [written, List.singleton_append, readTextBody?.eq_def]
    simp [control]

theorem writtenChar_pos (c : Char) : 0 < (writtenChar c).toList.length := by
  rcases writtenChar_spec c with ⟨escape, written, -⟩ | ⟨written, -⟩
  · rw [written]
    exact Nat.succ_pos _
  · rw [written]
    exact Nat.succ_pos _

theorem readTextBody?_written (cs done rest : List Char) {fuel : Nat} (enough : cs.length < fuel) :
    readTextBody? fuel done (cs.flatMap (fun c => (writtenChar c).toList) ++ '"' :: rest) =
      some (String.ofList (done.reverse ++ cs), rest) := by
  induction cs generalizing done fuel with
  | nil =>
    obtain ⟨fuel, rfl⟩ := Nat.exists_eq_add_one_of_ne_zero (Nat.ne_of_gt enough)
    rw [List.append_nil]
    rfl
  | cons c cs ih =>
    obtain ⟨fuel, rfl⟩ := Nat.exists_eq_add_one_of_ne_zero (Nat.ne_of_gt (Nat.zero_lt_of_lt enough))
    rw [List.flatMap_cons, List.append_assoc, readTextBody?_writtenChar,
      ih (c :: done) (Nat.lt_of_succ_lt_succ enough), List.reverse_cons, List.append_assoc,
      List.singleton_append]

theorem length_le_written (cs : List Char) :
    cs.length ≤ (cs.flatMap fun c => (writtenChar c).toList).length := by
  induction cs with
  | nil => exact Nat.le_refl 0
  | cons c cs ih =>
    have some := writtenChar_pos c
    rw [List.flatMap_cons, List.length_append, List.length_cons]
    omega

theorem toList_writtenText (s : String) : (writtenText s).toList =
    '"' :: (s.toList.flatMap (fun c => (writtenChar c).toList) ++ ['"']) := by
  have quote : "\"".toList = ['"'] := rfl
  rw [writtenText, String.toList_append, String.toList_append, String.toList_join, List.flatMap_map,
    quote]
  rfl

theorem readText?_written (s : String) (rest : List Char) :
    readText? (s.toList.flatMap (fun c => (writtenChar c).toList) ++ '"' :: rest) = some (s, rest) := by
  have enough := length_le_written s.toList
  rw [readText?, readTextBody?_written s.toList [] rest
    (by rw [List.length_append]; omega)]
  exact congrArg some (congrArg (·, rest) String.ofList_toList)

end Text

section Number
variable {rest : List Char}

theorem readWhole?_digits (n : Nat) (closes : Closes rest) :
    readWhole? ((padded 1 n).toList ++ rest) = some ((padded 1 n).toList, rest) := by
  rw [readWhole?, takeWhile_padded 1 n closes.noDigit, dropWhile_padded 1 n closes.noDigit]
  split
  · rename_i none
    exact absurd none (padded_ne_nil 1 n)
  · rename_i leading
    rw [toList_padded_one] at leading
    by_cases zero : n = 0
    · rw [zero, Nat.toDigits_zero] at leading
      cases leading
    · exact absurd (congrArg List.head? leading) (head_toDigits_ne_zero (Nat.pos_of_ne_zero zero))
  · rfl

theorem readFraction?_closes (closes : Closes rest) : readFraction? rest = some ([], rest) := by
  cases rest with
  | nil => rfl
  | cons c rest => rcases closes c rfl with rfl | rfl | rfl <;> rfl

theorem readExponent?_closes (closes : Closes rest) : readExponent? rest = some (none, rest) := by
  cases rest with
  | nil => rfl
  | cons c rest => rcases closes c rfl with rfl | rfl | rfl <;> rfl

theorem readNumber?_nonnegative {n : Nat} (bound : n < 0x10000000000000000) (closes : Closes rest) :
    readNumber? ((padded 1 n).toList ++ rest) = some (.int n, rest) := by
  have value : numberValue? false (padded 1 n).toList [] none = some (.int n) := by
    rw [numberValue?]
    simp only [List.isEmpty_nil, Option.isNone_none, Bool.and_self, if_true, valueOf_padded]
    rw [if_neg Bool.false_ne_true, if_pos bound]
  rw [readNumber?]
  · simp only [Option.bind_eq_bind]
    rw [readWhole?_digits n closes, Option.bind_some, readFraction?_closes closes, Option.bind_some,
      readExponent?_closes closes, Option.bind_some, value]
    rfl
  · -- The first character of the numeral is a digit.
    intro cs minus
    obtain ⟨d, ds, shape⟩ := List.exists_cons_of_ne_nil (padded_ne_nil 1 n)
    have digit : isDigit d = true := isDigit_of_mem_padded 1 n (shape ▸ List.mem_cons_self)
    rw [shape, List.cons_append] at minus
    rw [(List.cons.inj minus).1] at digit
    cases digit

theorem readNumber?_negative {n : Nat} (positive : 0 < n) (bound : n ≤ 0x8000000000000000)
    (closes : Closes rest) :
    readNumber? ('-' :: ((padded 1 n).toList ++ rest)) = some (.int (-(n : Int)), rest) := by
  have value : numberValue? true (padded 1 n).toList [] none = some (.int (-(n : Int))) := by
    rw [numberValue?]
    simp only [List.isEmpty_nil, Option.isNone_none, Bool.and_self, if_true, valueOf_padded]
    rw [if_pos ⟨positive, bound⟩]
  rw [readNumber?]
  simp only [Option.bind_eq_bind]
  rw [readWhole?_digits n closes, Option.bind_some, readFraction?_closes closes, Option.bind_some,
    readExponent?_closes closes, Option.bind_some, value]
  rfl

/-- An integer of 64 bits, signed or unsigned, reads back. -/
theorem readNumber?_signed {n : Int} (low : -0x8000000000000000 ≤ n) (high : n < 0x10000000000000000)
    (closes : Closes rest) : readNumber? ((signed n).toList ++ rest) = some (.int n, rest) := by
  cases n with
  | ofNat k =>
    have bound : (k : Int) < 0x10000000000000000 := high
    exact readNumber?_nonnegative (by omega) closes
  | negSucc k =>
    rw [signed, toList_minus, List.cons_append]
    exact readNumber?_negative (Nat.succ_pos k) (by omega) closes

end Number

section Values

theorem readValue?_number (depth : Nat) {c : Char} (cs : List Char) (first : c = '-' ∨ isDigit c = true) :
    readValue? depth (c :: cs) = readNumber? (c :: cs) := by
  have other (mark : Char) (apart : mark ≠ '-' ∧ isDigit mark = false) : c ≠ mark := by
    intro same
    rcases first with dash | digit
    · exact apart.1 (same ▸ dash)
    · rw [same, apart.2] at digit
      cases digit
  have solid : skipSpace (c :: cs) = c :: cs := by
    have space : isSpace c = false := by
      simp only [isSpace, Bool.or_eq_false_iff, decide_eq_false_iff_not]
      exact ⟨⟨⟨other _ (by decide), other _ (by decide)⟩, other _ (by decide)⟩, other _ (by decide)⟩
    rw [skipSpace, List.dropWhile_cons, space, if_neg Bool.false_ne_true]
  rw [readValue?, solid]
  split
  case h_7 => rfl
  -- No other value starts as a number does.
  all_goals
    rename_i same
    exact absurd (List.cons.inj same).1 (other _ (by decide))

theorem reads_null (depth : Nat) : Reads depth .null := by
  intro rest _
  have null : Value.null.write.toList = ['n', 'u', 'l', 'l'] := rfl
  rw [null, readValue?]
  rfl

theorem reads_text (depth : Nat) (s : String) : Reads depth (.text s) := by
  intro rest _
  rw [Value.write, toList_writtenText, List.cons_append, List.append_assoc, List.singleton_append,
    readValue?]
  show (readText? _).map _ = _
  rw [readText?_written]
  rfl

theorem reads_int (depth : Nat) {n : Int} (low : -0x8000000000000000 ≤ n)
    (high : n < 0x10000000000000000) : Reads depth (.int n) := by
  intro rest closes
  have read := readNumber?_signed low high closes
  rw [Value.write]
  obtain ⟨c, cs, shape, first⟩ : ∃ c cs, (signed n).toList = c :: cs ∧ (c = '-' ∨ isDigit c = true) := by
    cases n with
    | ofNat k =>
      obtain ⟨d, ds, shape⟩ := List.exists_cons_of_ne_nil (padded_ne_nil 1 k)
      exact ⟨d, ds, shape, .inr (isDigit_of_mem_padded 1 k (shape ▸ List.mem_cons_self))⟩
    | negSucc k => exact ⟨'-', _, toList_minus _, .inl rfl⟩
  rw [shape, List.cons_append] at read ⊢
  rw [readValue?_number depth _ first, read]

def writtenMember (m : String × Value) : List Char :=
  (writtenText m.1).toList ++ ':' :: m.2.write.toList

theorem writeMembers_eq (ms : List (String × Value)) :
    (writeMembers ms).map String.toList = ms.map writtenMember := by
  induction ms with
  | nil => rfl
  | cons m ms ih =>
    have colon : ":".toList = [':'] := rfl
    rw [writeMembers, List.map_cons, List.map_cons, ih, String.toList_append, String.toList_append, colon,
      List.append_assoc, List.singleton_append]
    rfl

theorem readMember?_written {depth : Nat} {m : String × Value} (reads : Reads depth m.2)
    {rest : List Char} (closes : Closes rest) :
    readMember? (readValue? depth) (writtenMember m ++ rest) = some (m, rest) := by
  rw [writtenMember, toList_writtenText, readMember?]
  simp only [List.cons_append, List.append_assoc, List.nil_append]
  show (readText? _).bind _ = _
  rw [readText?_written, Option.bind_some]
  show (readValue? depth _).bind _ = _
  rw [reads rest closes]
  rfl

theorem readElements?_members {depth : Nat} {m : String × Value} {ms : List (String × Value)}
    (reads : ∀ x ∈ m :: ms, Reads depth x.2) (rest : List Char) {fuel : Nat} (enough : ms.length < fuel) :
    readElements? (readMember? (readValue? depth)) '\x7d' fuel
      ([','].intercalate ((m :: ms).map writtenMember) ++ '\x7d' :: rest) = some (m :: ms, rest) := by
  induction ms generalizing m fuel with
  | nil =>
    obtain ⟨fuel, rfl⟩ := Nat.exists_eq_add_one_of_ne_zero (Nat.ne_of_gt enough)
    have read := readMember?_written (reads m List.mem_cons_self) (closes_cons (.inr (.inr rfl)) rest)
    rw [List.map_cons, List.map_nil, List.intercalate_singleton]
    show (readMember? _ _).bind _ = _
    rw [read]
    rfl
  | cons n ms ih =>
    obtain ⟨fuel, rfl⟩ := Nat.exists_eq_add_one_of_ne_zero (Nat.ne_of_gt (Nat.zero_lt_of_lt enough))
    have further := ih (fun x mem => reads x (List.mem_cons_of_mem m mem)) (Nat.lt_of_succ_lt_succ enough)
    rw [List.map_cons] at further
    rw [List.map_cons, List.map_cons, List.intercalate_cons_cons, List.append_assoc, List.append_assoc,
      List.singleton_append]
    generalize [','].intercalate (writtenMember n :: ms.map writtenMember) ++ '\x7d' :: rest = tail
      at further ⊢
    show (readMember? _ _).bind _ = _
    rw [readMember?_written (reads m List.mem_cons_self) (closes_cons (.inl rfl) tail)]
    show (readElements? _ _ fuel tail).bind _ = _
    rw [further]
    rfl

theorem length_le_members (m : String × Value) (ms : List (String × Value)) :
    ms.length < ([','].intercalate ((m :: ms).map writtenMember)).length := by
  induction ms generalizing m with
  | nil =>
    rw [List.map_cons, List.map_nil, List.intercalate_singleton, writtenMember, List.length_append]
    exact Nat.lt_of_lt_of_le (Nat.succ_pos _) (Nat.le_add_left _ _)
  | cons n ms ih =>
    have further := ih n
    rw [List.map_cons] at further
    rw [List.map_cons, List.map_cons, List.intercalate_cons_cons, List.length_append, List.length_append,
      List.length_singleton, List.length_cons]
    omega

theorem members_start (m : String × Value) (ms : List (String × Value)) :
    ∃ tail, [','].intercalate ((m :: ms).map writtenMember) = '"' :: tail := by
  cases ms with
  | nil =>
    rw [List.map_cons, List.map_nil, List.intercalate_singleton, writtenMember, toList_writtenText]
    exact ⟨_, rfl⟩
  | cons n ms =>
    rw [List.map_cons, List.map_cons, List.intercalate_cons_cons, writtenMember, toList_writtenText]
    exact ⟨_, rfl⟩

theorem reads_object {depth : Nat} {ms : List (String × Value)} (reads : ∀ m ∈ ms, Reads depth m.2) :
    Reads (depth + 1) (.object ms) := by
  intro rest _
  have written : (Value.object ms).write.toList =
      '\x7b' :: ([','].intercalate (ms.map writtenMember) ++ ['\x7d']) := by
    have comma : ",".toList = [','] := rfl
    rw [Value.write, String.toList_append, String.toList_append, String.toList_intercalate,
      writeMembers_eq, comma]
    rfl
  rw [written, List.cons_append, List.append_assoc, List.singleton_append, readValue?]
  show (readSequence? _ _ _).map _ = _
  cases ms with
  | nil => rfl
  | cons m ms =>
    have enough : ms.length < ([','].intercalate ((m :: ms).map writtenMember) ++ '\x7d' :: rest).length := by
      have short := length_le_members m ms
      rw [List.length_append]
      omega
    have read := readElements?_members reads rest enough
    obtain ⟨tail, quote⟩ := members_start m ms
    rw [quote, List.cons_append] at read ⊢
    show (readElements? _ _ _ _).map _ = _
    rw [read]
    rfl

theorem read?_write {v : Value} (reads : Reads nestingLimit v) : Value.read? v.write = some v := by
  have read := reads [] (fun _ here => nomatch here)
  rw [List.append_nil] at read
  rw [Value.read?, read]
  rfl

end Values
end Steward.Json
