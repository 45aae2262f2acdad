import Mathlib.Data.List.TakeWhile
import RebateRelay.Json.Decode
import RebateRelay.Proofs.Number.Spelling

/-!
# JSON read back
-/

namespace RebateRelay.Json

namespace Literal

open Text

theorem unit?_low {n : ℕ} (small : n < 256) :
    unit? '0' '0' (Hex.digit (n / 16)) (Hex.digit (n % 16)) = some n := by
  have zero : Hex.value? '0' = some 0 := rfl
  have high := Hex.value?_digit (n := n / 16) (by omega)
  have low := Hex.value?_digit (n := n % 16) (by omega)
  simp only [unit?, zero, high, low, Option.bind_eq_bind, Option.bind_some, Option.pure_def]
  congr 1
  omega

/-- The ways to write a character in a literal. -/
inductive Writes (c : Char) : List Char → Prop
  /-- Behind a backslash stands a letter for it. -/
  | short (e : Char) (listed : shortEscapes.lookup e = some c) : Writes c ['\\', e]
  /-- It is a control, by its number. -/
  | control (h l : Char) (code : unit? '0' '0' h l = some c.toNat) (small : c.toNat < 0x20) :
    Writes c ['\\', 'u', '0', '0', h, l]
  /-- It stands for itself. -/
  | plain (quote : c ≠ '"') (backslash : c ≠ '\\') (large : 0x20 ≤ c.toNat) : Writes c [c]

theorem writes_encodeChar (c : Char) : Writes c (encodeChar c) := by
  unfold encodeChar
  simp only [beq_iff_eq]
  split_ifs with quote backslash newline carriage tab backspace feed control
  · subst quote
    exact .short '"' rfl
  · subst backslash
    exact .short '\\' rfl
  · subst newline
    exact .short 'n' rfl
  · subst carriage
    exact .short 'r' rfl
  · subst tab
    exact .short 't' rfl
  · subst backspace
    exact .short 'b' rfl
  · subst feed
    exact .short 'f' rfl
  · exact .control _ _ (unit?_low (control.trans (by decide))) control
  · exact .plain quote backslash (Nat.not_lt.mp control)

/-- No letter behind a backslash is taken for the start of a number. -/
theorem ne_u_of_listed {c e : Char} (listed : shortEscapes.lookup e = some c) : e ≠ 'u' := by
  rintro rfl
  cases listed

/-- A character that is written in a literal is passed over as it was written. -/
theorem Writes.scan?_append {c : Char} {written cs body rest : List Char}
    (writes : Writes c written) (scanned : scan? cs = some (body, rest)) :
    scan? (written ++ cs) = some (written ++ body, rest) := by
  cases writes with
  | short e listed =>
      have number := ne_u_of_listed listed
      simp [Literal.scan?, number, listed, scanned]
  | control h l code small => simp [Literal.scan?, code, scanned]
  | plain quote backslash large =>
      have allowed : ¬c.toNat < 0x20 := Nat.not_lt.mpr large
      simp [Literal.scan?, backslash, allowed, scanned]

/-- A literal with this body ends at its quote. -/
def IsBody (body : List Char) : Prop :=
  ∀ rest, scan? (body ++ '"' :: rest) = some (body, rest)

theorem isBody_encode (text : List Char) : IsBody (encode text) := by
  intro rest
  induction text with
  | nil => rfl
  | cons c text ih =>
      simp only [encode, List.flatMap_cons, List.append_assoc]
      exact (writes_encodeChar c).scan?_append ih

/-- A number that is no half of a pair stands for itself, whatever follows. -/
theorem decode?_unit {a b c d : Char} {n : ℕ} (code : unit? a b c d = some n)
    (high : isHigh n = false) (low : isLow n = false) (cs : List Char) :
    decode? ('\\' :: 'u' :: a :: b :: c :: d :: cs) = (decode? cs).map (Char.ofNat n :: ·) := by
  rw [decode?.eq_def]
  split
  case h_1 same => cases same
  case h_2 same =>
    cases same
    simp only [code, high, low, Option.bind_eq_bind, Option.bind_some, Bool.false_eq_true, if_false,
      Option.map_eq_bind]
    rfl
  case h_3 same =>
    cases same
    simp only [code, high, low, Bool.or_self, Option.bind_eq_bind, Option.bind_some,
      Bool.false_eq_true, if_false, Option.map_eq_bind]
    rfl
  case h_4 none same =>
    cases same
    exact absurd rfl (none _ _ _ _ _ rfl)
  case h_5 none _ same =>
    cases same
    exact absurd rfl (none _ _ _ _ _ rfl)

theorem Writes.decode?_append {c : Char} {written : List Char} (writes : Writes c written)
    (cs : List Char) : decode? (written ++ cs) = (decode? cs).map (c :: ·) := by
  cases writes with
  | short e listed =>
      have number := ne_u_of_listed listed
      have read : decode? ('\\' :: e :: cs) = (decode? cs).bind fun rest => some (c :: rest) := by
        simp [decode?, number, listed]
      exact read.trans Option.map_eq_bind.symm
  | control h l code small =>
      have high : isHigh c.toNat = false := by simp [isHigh]; omega
      have low : isLow c.toNat = false := by simp [isLow]; omega
      have read := decode?_unit code high low cs
      rwa [Char.ofNat_toNat] at read
  | plain quote backslash large =>
      have read : decode? (c :: cs) = (decode? cs).bind fun rest => some (c :: rest) := by
        simp [decode?, backslash]
      exact read.trans Option.map_eq_bind.symm

/-- A text is read back from its literal. -/
theorem decode?_encode (text : List Char) : decode? (encode text) = some text := by
  induction text with
  | nil => rfl
  | cons c text ih =>
      rw [encode, List.flatMap_cons, (writes_encodeChar c).decode?_append]
      exact congrArg (Option.map (c :: ·)) ih

end Literal

/-- A value whose numbers and strings are spelled as they have to be. -/
inductive WellFormed : Json → Prop
  | null : WellFormed .null
  | bool (value : Bool) : WellFormed (.bool value)
  | number {spelling : List Char} (grammar : isNumber spelling = true)
    (chars : ∀ c ∈ spelling, isNumberChar c = true) : WellFormed (.number spelling)
  | string {body : List Char} (closed : Literal.IsBody body) : WellFormed (.string body)
  | array {items : List Json} (parts : ∀ item ∈ items, WellFormed item) : WellFormed (.array items)
  | object {members : List (List Char × Json)} (names : ∀ m ∈ members, Literal.IsBody m.1)
    (values : ∀ m ∈ members, WellFormed m.2) : WellFormed (.object members)

/-- A reading goes through a text to its end, without blanks on the way. -/
inductive Run : Reading → List Char → Reading → Prop
  | stop (r : Reading) : Run r [] r
  | step {r s t : Reading} {token : Token} {cs rest : List Char}
    (dense : cs.dropWhile isSpace = cs) (next : nextToken? cs = some (token, rest))
    (shorter : rest.length < cs.length) (taken : r.step? token = some s) (more : Run s rest t) :
    Run r cs t

theorem Run.exists_tokens {r t : Reading} {cs : List Char} (run : Run r cs t) {n : ℕ}
    (enough : cs.length ≤ n) :
    ∃ tokens, tokensWithin n cs = some tokens ∧ tokens.foldlM Reading.step? r = some t := by
  induction run generalizing n with
  | stop r => cases n <;> exact ⟨[], rfl, rfl⟩
  | @step r s t token cs rest dense next shorter taken more ih =>
      obtain _ | n := n
      · omega
      · obtain ⟨tokens, cut, read⟩ := ih (n := n) (by omega)
        have some : cs.isEmpty = false := by
          cases cs with
          | nil => cases shorter
          | cons => rfl
        refine ⟨token :: tokens, ?_, ?_⟩
        · simp only [tokensWithin, dense, some, next, cut, Bool.false_eq_true, if_false,
            Option.bind_eq_bind, Option.bind_some, Option.pure_def]
        · rw [List.foldlM_cons, taken]
          exact read

/-- A text is read as the value at which a reading of it arrives. -/
theorem Run.parse? {cs : List Char} {t : Reading} {j : Json} (run : Run .start cs t)
    (complete : t.value? = some j) : parse? (String.ofList cs) = some j := by
  obtain ⟨tokens, cut, read⟩ := run.exists_tokens le_rfl
  simp only [Json.parse?, tokens?, String.toList_ofList, cut, read, Option.bind_eq_bind,
    Option.bind_some, complete]

/-- What follows does not go on with a number. -/
def Apart (rest : List Char) : Prop := ∀ c ∈ rest.head?, isNumberChar c = false

/-- Where a value may stand, it is read as itself. -/
def Reads (j : Json) : Prop :=
  ∀ ⦃stack : List Frame⦄ ⦃turn : Turn⦄ ⦃rest : List Char⦄ ⦃r t : Reading⦄,
    turn = .value ∨ turn = .valueOrEnd → Reading.deliver? j stack = some r → Apart rest →
    Run r rest t → Run ⟨stack, turn⟩ (render j ++ rest) t

/-- A value that is one token is read as itself. -/
theorem reads_of_token {j : Json} {token : Token}
    (next : ∀ rest, Apart rest → nextToken? (render j ++ rest) = some (token, rest))
    (dense : ∀ rest, (render j ++ rest).dropWhile isSpace = render j ++ rest)
    (length : 0 < (render j).length)
    (begins : ∀ stack turn, turn = .value ∨ turn = .valueOrEnd →
      Reading.step? ⟨stack, turn⟩ token = Reading.deliver? j stack) : Reads j := by
  intro stack turn rest r t ready delivered apart more
  refine .step (dense rest) (next rest apart) ?_ ((begins stack turn ready).trans delivered) more
  rw [List.length_append]
  omega

theorem reads_null : Reads .null :=
  reads_of_token (fun _ _ => rfl) (fun _ => rfl) (by decide)
    (by rintro stack turn (rfl | rfl) <;> rfl)

theorem reads_bool (value : Bool) : Reads (.bool value) := by
  cases value
  · exact reads_of_token (fun _ _ => rfl) (fun _ => rfl) (by decide)
      (by rintro stack turn (rfl | rfl) <;> rfl)
  · exact reads_of_token (fun _ _ => rfl) (fun _ => rfl) (by decide)
      (by rintro stack turn (rfl | rfl) <;> rfl)

theorem reads_string {body : List Char} (closed : Literal.IsBody body) : Reads (.string body) := by
  have next (rest : List Char) :
      nextToken? (render (.string body) ++ rest) = some (.text body, rest) := by
    simp only [render, quoted, List.cons_append, List.append_assoc, List.nil_append, nextToken?,
      closed rest]
    rfl
  exact reads_of_token (fun rest _ => next rest) (fun _ => rfl) (Nat.succ_pos _)
    (by rintro stack turn (rfl | rfl) <;> rfl)

theorem Apart.takeWhile {rest : List Char} (apart : Apart rest) :
    rest.takeWhile isNumberChar = [] ∧ rest.dropWhile isNumberChar = rest := by
  cases rest with
  | nil => exact ⟨rfl, rfl⟩
  | cons c rest => simp [apart c rfl]

/-- What begins like a number is taken for one. -/
theorem nextToken?_of_isNumberChar {c : Char} (cs : List Char) (number : isNumberChar c = true) :
    nextToken? (c :: cs) =
      if isNumber ((c :: cs).takeWhile isNumberChar) then
        some (.atom (.number ((c :: cs).takeWhile isNumberChar)), (c :: cs).dropWhile isNumberChar)
      else none := by
  unfold nextToken?
  split
  case h_11 => rfl
  all_goals
    rename_i same
    cases same
    exact absurd number (by decide)

theorem reads_number {spelling : List Char} (grammar : isNumber spelling = true)
    (chars : ∀ c ∈ spelling, isNumberChar c = true) : Reads (.number spelling) := by
  obtain _ | ⟨c, cs⟩ := spelling
  · cases grammar
  · have number := chars c List.mem_cons_self
    have space : isSpace c = false := by
      by_contra space
      simp only [isSpace, Bool.not_eq_false, Bool.or_eq_true, beq_iff_eq] at space
      rcases space with ((rfl | rfl) | rfl) | rfl <;> cases number
    have next (rest : List Char) (apart : Apart rest) :
        nextToken? (render (.number (c :: cs)) ++ rest) =
          some (.atom (.number (c :: cs)), rest) := by
      have front : (c :: cs ++ rest).takeWhile isNumberChar = c :: cs := by
        rw [List.takeWhile_append_of_pos chars, apart.takeWhile.1, List.append_nil]
      have back : (c :: cs ++ rest).dropWhile isNumberChar = rest := by
        rw [List.dropWhile_append_of_pos chars, apart.takeWhile.2]
      rw [render, List.cons_append, nextToken?_of_isNumberChar _ number, ← List.cons_append, front,
        back, if_pos grammar]
    refine reads_of_token next (fun rest => ?_) (Nat.succ_pos _)
      (by rintro stack turn (rfl | rfl) <;> rfl)
    rw [render, List.cons_append, List.dropWhile_cons_of_neg (by simp [space])]

/-- The items of an array are read one by one, and the array when it is closed. -/
theorem reads_items {items : List Json} (some : items ≠ []) (parts : ∀ item ∈ items, Reads item)
    {held : List Json} {stack : List Frame} {turn : Turn} {rest : List Char} {r t : Reading}
    (ready : turn = .value ∨ turn = .valueOrEnd)
    (delivered : Reading.deliver? (.array (held.reverse ++ items)) stack = Option.some r)
    (more : Run r rest t) :
    Run ⟨.array held :: stack, turn⟩ (renderItems items ++ ']' :: rest) t := by
  induction items generalizing held turn with
  | nil => exact absurd rfl some
  | cons item items ih =>
      have first := parts item List.mem_cons_self
      cases items with
      | nil =>
          have closed : Reading.step? ⟨.array (item :: held) :: stack, .commaOrEnd⟩ .closeArray =
              Option.some r := by
            rw [← delivered, ← List.reverse_cons]
            rfl
          have apart : Apart (']' :: rest) := fun c front => by cases front; rfl
          exact first ready rfl apart (.step rfl rfl (Nat.lt_succ_self _) closed more)
      | cons item' items =>
          rw [List.append_cons, ← List.reverse_cons] at delivered
          have others := ih (List.cons_ne_nil _ _)
            (fun item inside => parts item (List.mem_cons_of_mem _ inside)) (Or.inl rfl) delivered
          have apart : Apart (',' :: (renderItems (item' :: items) ++ ']' :: rest)) :=
            fun c front => by cases front; rfl
          have comma : Run ⟨.array (item :: held) :: stack, .commaOrEnd⟩
              (',' :: (renderItems (item' :: items) ++ ']' :: rest)) t :=
            .step rfl rfl (Nat.lt_succ_self _) rfl others
          have all : Run ⟨.array held :: stack, turn⟩ (render item ++ _) t :=
            first ready rfl apart comma
          simpa [renderItems] using all

/-- The name of a member and the colon lead to the value, and the value to what follows it. -/
theorem reads_member {name : List Char} {value : Json} (closed : Literal.IsBody name)
    (reads : Reads value) {held : List (List Char × Json)} {stack : List Frame} {turn : Turn}
    {rest : List Char} {t : Reading} (ready : turn = .name ∨ turn = .nameOrEnd)
    (apart : Apart rest)
    (more : Run ⟨.object ((name, value) :: held) :: stack, .commaOrEnd⟩ rest t) :
    Run ⟨.object held :: stack, turn⟩ (quoted name ++ ':' :: (render value ++ rest)) t := by
  have next : nextToken? (quoted name ++ ':' :: (render value ++ rest)) =
      some (.text name, ':' :: (render value ++ rest)) := by
    simp only [quoted, List.cons_append, List.append_assoc, List.nil_append, nextToken?,
      closed (':' :: (render value ++ rest))]
    rfl
  have inner : Run ⟨.member name :: .object held :: stack, .value⟩ (render value ++ rest) t :=
    reads (Or.inl rfl) rfl apart more
  have colon : Run ⟨.member name :: .object held :: stack, .colon⟩
      (':' :: (render value ++ rest)) t :=
    .step rfl rfl (Nat.lt_succ_self _) rfl inner
  refine .step rfl next ?shorter ?turns colon
  case shorter =>
    simp only [quoted, List.cons_append, List.append_assoc, List.length_cons, List.length_append]
    omega
  case turns => rcases ready with rfl | rfl <;> rfl

/-- The members of an object are read one by one, and the object when it is closed. -/
theorem reads_members {members : List (List Char × Json)} (some : members ≠ [])
    (names : ∀ m ∈ members, Literal.IsBody m.1) (values : ∀ m ∈ members, Reads m.2)
    {held : List (List Char × Json)} {stack : List Frame} {turn : Turn} {rest : List Char}
    {r t : Reading} (ready : turn = .name ∨ turn = .nameOrEnd)
    (delivered : Reading.deliver? (.object (held.reverse ++ members)) stack = Option.some r)
    (more : Run r rest t) :
    Run ⟨.object held :: stack, turn⟩ (renderMembers members ++ '}' :: rest) t := by
  induction members generalizing held turn with
  | nil => exact absurd rfl some
  | cons m members ih =>
      obtain ⟨name, value⟩ := m
      have named := names _ List.mem_cons_self
      have first := values _ List.mem_cons_self
      cases members with
      | nil =>
          have closed : Reading.step? ⟨.object ((name, value) :: held) :: stack, .commaOrEnd⟩
              .closeObject = Option.some r := by
            rw [← delivered, ← List.reverse_cons]
            rfl
          have apart : Apart ('}' :: rest) := fun c front => by cases front; rfl
          have all := reads_member named first ready apart
            (.step rfl rfl (Nat.lt_succ_self _) closed more)
          rwa [renderMembers, List.append_assoc, List.cons_append]
      | cons m' members =>
          rw [List.append_cons, ← List.reverse_cons] at delivered
          have others := ih (List.cons_ne_nil _ _)
            (fun m inside => names m (List.mem_cons_of_mem _ inside))
            (fun m inside => values m (List.mem_cons_of_mem _ inside)) (Or.inl rfl) delivered
          have apart : Apart (',' :: (renderMembers (m' :: members) ++ '}' :: rest)) :=
            fun c front => by cases front; rfl
          have comma : Run ⟨.object ((name, value) :: held) :: stack, .commaOrEnd⟩
              (',' :: (renderMembers (m' :: members) ++ '}' :: rest)) t :=
            .step rfl rfl (Nat.lt_succ_self _) rfl others
          simpa [renderMembers] using reads_member named first ready apart comma

/-- A value that is spelled as it has to be is read as itself. -/
theorem WellFormed.reads {j : Json} (well : WellFormed j) : Reads j := by
  induction well with
  | null => exact reads_null
  | bool value => exact reads_bool value
  | number grammar chars => exact reads_number grammar chars
  | string closed => exact reads_string closed
  | @array items parts ih =>
      intro stack turn rest r t ready delivered apart more
      have opened : Reading.step? ⟨stack, turn⟩ .openArray =
          some ⟨.array [] :: stack, .valueOrEnd⟩ := by
        rcases ready with rfl | rfl <;> rfl
      rw [render, List.cons_append, List.append_assoc]
      refine .step rfl rfl (Nat.lt_succ_self _) opened ?_
      cases items with
      | nil => exact .step rfl rfl (Nat.lt_succ_self _) delivered more
      | cons item items => exact reads_items (List.cons_ne_nil _ _) ih (Or.inr rfl) delivered more
  | @object members names values ih =>
      intro stack turn rest r t ready delivered apart more
      have opened : Reading.step? ⟨stack, turn⟩ .openObject =
          some ⟨.object [] :: stack, .nameOrEnd⟩ := by
        rcases ready with rfl | rfl <;> rfl
      rw [render, List.cons_append, List.append_assoc]
      refine .step rfl rfl (Nat.lt_succ_self _) opened ?_
      cases members with
      | nil => exact .step rfl rfl (Nat.lt_succ_self _) delivered more
      | cons m members =>
          exact reads_members (List.cons_ne_nil _ _) names ih (Or.inr rfl) delivered more

/-- A value that is written out is read back. -/
theorem WellFormed.parse?_text {j : Json} (well : j.WellFormed) : parse? j.text = some j := by
  have apart : Apart [] := fun c none => absurd none (Option.not_mem_none c)
  have run : Run .start (render j ++ []) ⟨[], .done j⟩ :=
    well.reads (Or.inl rfl) rfl apart (.stop _)
  rw [List.append_nil] at run
  exact run.parse? rfl

/-! ## Values that are written by the program -/

theorem wellFormed_ofString (s : String) : (ofString s).WellFormed :=
  .string (Literal.isBody_encode s.toList)

theorem wellFormed_ofNat (n : ℕ) : (ofNat n).WellFormed :=
  .number (isNumber_decimalDigits n) fun c inside => by
    simp [isNumberChar, Number.isDigit_of_mem_decimalDigits inside]

theorem wellFormed_ofMembers {members : List (String × Json)}
    (values : ∀ m ∈ members, m.2.WellFormed) : (ofMembers members).WellFormed := by
  refine .object (fun m inside => ?_) (fun m inside => ?_)
  · obtain ⟨source, _, rfl⟩ := List.mem_map.mp inside
    exact Literal.isBody_encode _
  · obtain ⟨source, listed, rfl⟩ := List.mem_map.mp inside
    exact values source listed

/-- A text is read back from its value. -/
theorem string?_ofString (s : String) : string? (ofString s) = some s := by
  rw [ofString, string?, Literal.decode?_encode, Option.map_some, String.ofList_toList]

namespace Members

variable {names : List String} {members entries : List (String × Json)}

theorem foldlM_add? (known : ∀ m ∈ members, m.1 ∈ names)
    (distinct : (members.map Prod.fst).Nodup)
    (free : ∀ m ∈ members, entries.lookup m.1 = none) :
    (members.map fun (name, value) => (Literal.encode name.toList, value)).foldlM (add? names)
      entries = some (members.reverse ++ entries) := by
  induction members generalizing entries with
  | nil => rfl
  | cons m members ih =>
      obtain ⟨name, value⟩ := m
      rw [List.map_cons, List.nodup_cons] at distinct
      have added : add? names entries (Literal.encode name.toList, value) =
          some ((name, value) :: entries) := by
        have listed : names.contains name = true :=
          List.contains_iff_mem.mpr (known _ List.mem_cons_self)
        have absent := free _ List.mem_cons_self
        simp only [add?, Literal.decode?_encode, Option.bind_eq_bind, Option.bind_some,
          String.ofList_toList, listed, absent, if_true, Option.isSome_none, Bool.false_eq_true,
          if_false]
      rw [List.map_cons, List.foldlM_cons, added]
      refine (ih (fun m inside => known m (List.mem_cons_of_mem _ inside)) distinct.2 ?_).trans ?_
      · intro m inside
        have later : m.1 ∈ members.map Prod.fst := List.mem_map_of_mem inside
        have other : m.1 ≠ name := fun same => distinct.1 (same ▸ later)
        rw [List.lookup_cons, beq_eq_false_iff_ne.mpr other]
        exact free m (List.mem_cons_of_mem _ inside)
      · rw [List.reverse_cons, List.append_assoc]
        rfl

/-- The members of an object with different names, all of them wanted, are found. -/
theorem ofJson?_ofMembers (known : ∀ m ∈ members, m.1 ∈ names)
    (distinct : (members.map Prod.fst).Nodup) :
    ofJson? names (.ofMembers members) = some ⟨false, members.reverse⟩ := by
  have free : ∀ m ∈ members, ([] : List (String × Json)).lookup m.1 = none := fun _ _ => rfl
  rw [ofMembers, ofJson?, foldlM_add? known distinct free, Option.map_some, List.append_nil]

end Members

end RebateRelay.Json
