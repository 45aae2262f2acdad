import RebateRelay.Config.Endpoints
import RebateRelay.Proofs.Number.Spelling
import RebateRelay.Proofs.Result
import RebateRelay.Proofs.Text.Splitting
import RebateRelay.Proofs.Text.Trimming

/-!
# The list of endpoints read back

A list of endpoints that is written down is read back, however it is spaced, and of the addresses of
one chain the last is kept. What is read at all are the lists of which every piece is blank or gives a
chain and an address; of any other list the first piece that does neither is reported.
-/

namespace RebateRelay

open Text Number

/-- Of the endpoints of a list the last of a chain counts. -/
theorem Chain.Clients.getElem?_ofList (pairs : List (UInt64 × String)) (chainId : UInt64) :
    (ofList pairs).endpoints[chainId]? = pairs.reverse.lookup chainId := by
  -- What is inserted later goes first, whatever was there at the start.
  suffices kept : ∀ start : Std.TreeMap UInt64 String,
      (pairs.foldl (fun endpoints pair => endpoints.insert pair.1 pair.2) start)[chainId]? =
        (pairs.reverse.lookup chainId).or start[chainId]? by
    have none : (.empty : Std.TreeMap UInt64 String)[chainId]? = none := Std.TreeMap.getElem?_emptyc
    rw [ofList, kept, none, Option.or_none]
  induction pairs with
  | nil => exact fun start => rfl
  | cons pair pairs ih =>
      intro start
      rw [List.foldl_cons, ih, List.reverse_cons, List.lookup_append, Option.or_assoc]
      congr 1
      rw [Std.TreeMap.getElem?_insert, List.lookup_cons, List.lookup_nil]
      by_cases same : chainId = pair.1
      · rw [if_pos (Std.compare_eq_iff_eq.mpr same.symm), beq_iff_eq.mpr same]
        rfl
      · have other : compare pair.1 chainId ≠ .eq := fun equal =>
          same (Std.compare_eq_iff_eq.mp equal).symm
        rw [if_neg other, beq_eq_false_iff_ne.mpr same]
        rfl

namespace Endpoints

variable {piece front back : List Char} {pair : UInt64 × String}
variable {pieces : List (List Char)} {found : List (UInt64 × String)}

/-! ## One piece -/

/-- The piece gives a chain and an address, on both sides of its first equals sign. -/
def Gives (piece : List Char) (pair : UInt64 × String) : Prop :=
  ∃ left right, piece = left ++ '=' :: right ∧ '=' ∉ left ∧
    Spells (trimChars left) pair.1.toNat ∧ trimChars right = pair.2.toList ∧ pair.2 ≠ ""

/-- The piece is not blank and gives nothing. -/
def IsBad (piece : List Char) : Prop :=
  (¬∀ c ∈ piece, isBlank c = true) ∧ ∀ pair, ¬Gives piece pair

/-- Blanks around a piece make no difference. -/
theorem pair?_append (before : ∀ c ∈ front, isBlank c = true) (after : ∀ c ∈ back, isBlank c = true) :
    pair? (front ++ piece ++ back) = pair? piece := by
  have before' : '=' ∉ front := notMem_of_blank rfl before
  have after' : '=' ∉ back := notMem_of_blank rfl after
  unfold pair?
  rw [splitOnce?_append before' after']
  cases splitOnce? '=' piece with
  | none => rfl
  | some parts =>
      have left : trimChars (front ++ parts.1 ++ []) = trimChars parts.1 :=
        trimChars_append before (List.forall_mem_nil _)
      have right : trimChars ([] ++ parts.2 ++ back) = trimChars parts.2 :=
        trimChars_append (List.forall_mem_nil _) after
      rw [List.append_nil] at left
      rw [List.nil_append] at right
      simp only [Option.map_some, Option.bind_eq_bind, Option.bind_some, left, right]

theorem pair?_trimChars (piece : List Char) : pair? (trimChars piece) = pair? piece := by
  obtain ⟨front, back, before, after, whole⟩ := exists_trimChars piece
  have same : pair? (front ++ trimChars piece ++ back) = pair? (trimChars piece) :=
    pair?_append before after
  rw [← whole] at same
  exact same.symm

/-- A piece is read as what it gives. -/
theorem pair?_eq_some : pair? piece = some pair ↔ Gives piece pair := by
  obtain ⟨chainId, url⟩ := pair
  unfold pair?
  simp only [Option.bind_eq_bind, Option.bind_eq_some_iff]
  constructor
  · rintro ⟨⟨left, right⟩, split, number, read, shown⟩
    obtain ⟨whole, first⟩ := splitOnce?_eq_some_iff.mp split
    obtain ⟨spelled, inside⟩ := readUnsigned_eq_ok.mp (eq_ok_of_toOption read)
    split at shown
    case isTrue => cases shown
    case isFalse some =>
      cases shown
      refine ⟨left, right, whole, first, ?_, ?_, ?_⟩
      · rwa [UInt64.toNat_ofNat_of_lt' inside]
      · rw [String.toList_ofList]
      · intro empty
        apply some
        rw [← String.toList_inj, String.toList_ofList] at empty
        exact List.isEmpty_iff.mpr empty
  · rintro ⟨left, right, whole, first, spelled, trimmed, some⟩
    have read : readUnsigned UInt64.size (trimChars left) = .ok chainId.toNat :=
      readUnsigned_eq_ok.mpr ⟨spelled, chainId.toNat_lt_size⟩
    refine ⟨⟨left, right⟩, splitOnce?_eq_some_iff.mpr ⟨whole, first⟩, chainId.toNat, ?_, ?_⟩
    · rw [read]
      rfl
    · have filled : ¬(trimChars right).isEmpty = true := by
        rw [trimmed, List.isEmpty_iff, String.toList_eq_nil_iff]
        exact some
      rw [if_neg filled, trimmed, String.ofList_toList, UInt64.ofNat_toNat]

/-! ## All pieces -/

/-- The pairs of a list of pieces, of which the blank ones are passed over. -/
inductive Lists (R : List Char → UInt64 × String → Prop) :
    List (List Char) → List (UInt64 × String) → Prop where
  | nil : Lists R [] []
  | blank {piece : List Char} {pieces : List (List Char)} {found : List (UInt64 × String)}
      (blank : ∀ c ∈ piece, isBlank c = true) (rest : Lists R pieces found) :
      Lists R (piece :: pieces) found
  | pair {piece : List Char} {pair : UInt64 × String} {pieces : List (List Char)}
      {found : List (UInt64 × String)} (first : R piece pair) (rest : Lists R pieces found) :
      Lists R (piece :: pieces) (pair :: found)

theorem Lists.mono {R S : List Char → UInt64 × String → Prop} (listed : Lists R pieces found)
    (weaker : ∀ piece, ∀ pair ∈ found, R piece pair → S piece pair) : Lists S pieces found := by
  induction listed with
  | nil => exact .nil
  | blank blank rest ih => exact .blank blank (ih weaker)
  | pair first rest ih =>
      refine .pair (weaker _ _ List.mem_cons_self first) (ih ?_)
      intro piece pair inside
      exact weaker piece pair (List.mem_cons_of_mem _ inside)

theorem Lists.exists_of_mem {R : List Char → UInt64 × String → Prop} (listed : Lists R pieces found) :
    ∀ pair ∈ found, ∃ piece ∈ pieces, R piece pair := by
  induction listed with
  | nil => exact List.forall_mem_nil _
  | blank blank rest ih =>
      intro pair inside
      obtain ⟨piece, among, related⟩ := ih pair inside
      exact ⟨piece, List.mem_cons_of_mem _ among, related⟩
  | pair first rest ih =>
      refine List.forall_mem_cons.mpr ⟨⟨_, List.mem_cons_self, first⟩, ?_⟩
      intro pair inside
      obtain ⟨piece, among, related⟩ := ih pair inside
      exact ⟨piece, List.mem_cons_of_mem _ among, related⟩

/-- The pieces that are read, without the blanks around them. -/
def readable (pieces : List (List Char)) : List (List Char) :=
  (pieces.map trimChars).filter fun segment => !segment.isEmpty

theorem segments_eq (text : String) : segments text = readable (text.toList.splitOn ',') := by
  rw [segments, splitOn_eq, readable]

theorem readable_cons_of_blank (blank : ∀ c ∈ piece, isBlank c = true) :
    readable (piece :: pieces) = readable pieces := by
  have nothing := trimChars_eq_nil_iff.mpr blank
  simp [readable, nothing]

theorem readable_cons (filled : ¬∀ c ∈ piece, isBlank c = true) :
    readable (piece :: pieces) = trimChars piece :: readable pieces := by
  have some := mt trimChars_eq_nil_iff.mp filled
  simp [readable, some]

/-- A piece that gives something is not blank. -/
theorem Gives.not_blank (given : Gives piece pair) : ¬∀ c ∈ piece, isBlank c = true := by
  obtain ⟨left, right, rfl, -⟩ := given
  intro blank
  cases blank '=' (List.mem_append_right _ List.mem_cons_self)

theorem pairs_readable_of_gives (given : Gives piece pair) :
    pairs (readable (piece :: pieces)) = (pairs (readable pieces)).map (pair :: ·) := by
  rw [readable_cons given.not_blank, pairs, pair?_trimChars, pair?_eq_some.mpr given]

/-- Of pieces that are blank or give something, the pairs are read that they give. -/
theorem pairs_of_lists (listed : Lists Gives pieces found) : pairs (readable pieces) = .ok found := by
  induction listed with
  | nil => rfl
  | blank blank rest ih => rw [readable_cons_of_blank blank, ih]
  | pair given rest ih =>
      rw [pairs_readable_of_gives given, ih]
      rfl

/-- The first bad piece is handed back. -/
theorem pairs_eq_error {bad : List Char} (listed : Lists Gives pieces found) (fault : IsBad bad)
    (rest : List (List Char)) :
    pairs (readable (pieces ++ bad :: rest)) = .error (String.ofList (trimChars bad)) := by
  obtain ⟨filled, silent⟩ := fault
  induction listed with
  | nil =>
      have unread : pair? (trimChars bad) = none := by
        rw [pair?_trimChars, Option.eq_none_iff_forall_ne_some]
        exact fun pair read => silent pair (pair?_eq_some.mp read)
      rw [List.nil_append, readable_cons filled, pairs, unread]
  | blank blank rest ih => rw [List.cons_append, readable_cons_of_blank blank, ih]
  | pair given rest ih =>
      rw [List.cons_append, pairs_readable_of_gives given, ih]
      rfl

/-- Either all pieces are blank or give something, or one of them is the first that is bad. -/
theorem lists_or_exists_bad (pieces : List (List Char)) :
    (∃ found, Lists Gives pieces found) ∨
      ∃ before bad after, pieces = before ++ bad :: after ∧ (∃ found, Lists Gives before found) ∧
        IsBad bad := by
  induction pieces with
  | nil => exact Or.inl ⟨[], .nil⟩
  | cons piece pieces ih =>
      by_cases good : (∀ c ∈ piece, isBlank c = true) ∨ ∃ pair, Gives piece pair
      · have more {rest : List (List Char)} {found : List (UInt64 × String)}
            (listed : Lists Gives rest found) : ∃ found, Lists Gives (piece :: rest) found := by
          obtain blank | ⟨pair, given⟩ := good
          · exact ⟨found, .blank blank listed⟩
          · exact ⟨pair :: found, .pair given listed⟩
        obtain ⟨found, listed⟩ | ⟨before, bad, after, rfl, ⟨found, listed⟩, fault⟩ := ih
        · exact Or.inl (more listed)
        · exact Or.inr ⟨piece :: before, bad, after, rfl, more listed, fault⟩
      · obtain ⟨filled, silent⟩ := not_or.mp good
        exact Or.inr ⟨[], piece, pieces, rfl, ⟨[], .nil⟩, filled, not_exists.mp silent⟩

/-! ## The whole text -/

section Parse

variable {text : String} {clients : Chain.Clients}

theorem parse_of_lists (listed : Lists Gives (text.toList.splitOn ',') found) :
    parse text = .ok (.ofList found) := by
  rw [parse, segments_eq, pairs_of_lists listed]

theorem parse_of_bad {before after : List (List Char)} {bad : List Char}
    (whole : text.toList.splitOn ',' = before ++ bad :: after) (listed : Lists Gives before found)
    (fault : IsBad bad) :
    parse text = .error (.invalid "RPC_URLS"
      ("expected chain=url, got " ++ Text.quote (String.ofList (trimChars bad)))) := by
  rw [parse, segments_eq, whole, pairs_eq_error listed fault]

/-- What is read is given by the pieces. -/
theorem exists_lists_of_parse (read : parse text = .ok clients) :
    ∃ found, Lists Gives (text.toList.splitOn ',') found ∧ clients = .ofList found := by
  obtain ⟨found, listed⟩ | ⟨before, bad, after, whole, ⟨found, listed⟩, fault⟩ :=
    lists_or_exists_bad (text.toList.splitOn ',')
  · rw [parse_of_lists listed] at read
    cases read
    exact ⟨found, listed, rfl⟩
  · rw [parse_of_bad whole listed fault] at read
    cases read

/-- No chain is served by an empty address. -/
theorem ne_of_parse {chainId : UInt64} {url : String} (read : parse text = .ok clients)
    (served : clients.endpoints[chainId]? = some url) : url ≠ "" := by
  obtain ⟨found, listed, rfl⟩ := exists_lists_of_parse read
  rw [Chain.Clients.getElem?_ofList] at served
  obtain ⟨before, after, whole, -⟩ := List.lookup_eq_some_iff.mp served
  have inside : (chainId, url) ∈ found := by
    rw [← List.mem_reverse, whole]
    exact List.mem_append_right _ List.mem_cons_self
  obtain ⟨piece, -, left, right, -, -, -, -, filled⟩ := listed.exists_of_mem _ inside
  exact filled

end Parse

/-! ## What is written -/

/-- An address that can stand in a list. -/
structure IsAddress (url : String) : Prop where
  filled : url ≠ ""
  single : ',' ∉ url.toList
  trimmed : IsTrimmed url.toList

/-- The piece shows a chain in digits and an address, with blanks around both. -/
def Shows (piece : List Char) (pair : UInt64 × String) : Prop :=
  ∃ a b c d : List Char, (∀ x ∈ a ++ b ++ c ++ d, isBlank x = true) ∧
    piece = a ++ decimalDigits pair.1.toNat ++ b ++ '=' :: (c ++ pair.2.toList ++ d)

theorem isTrimmed_decimalDigits (n : ℕ) : IsTrimmed (decimalDigits n) :=
  isTrimmed_of_forall fun _ inside => isBlank_of_isDigit (isDigit_of_mem_decimalDigits inside)

theorem Shows.gives (shown : Shows piece pair) (address : IsAddress pair.2) : Gives piece pair := by
  obtain ⟨a, b, c, d, blank, rfl⟩ := shown
  simp only [List.forall_mem_append] at blank
  obtain ⟨⟨⟨before, between⟩, between'⟩, behind⟩ := blank
  refine ⟨a ++ decimalDigits pair.1.toNat ++ b, c ++ pair.2.toList ++ d, rfl, ?first, ?chain, ?url,
    address.filled⟩
  case first =>
    simp only [List.mem_append, not_or]
    exact ⟨⟨notMem_of_blank rfl before, notMem_decimalDigits rfl _⟩, notMem_of_blank rfl between⟩
  case chain =>
    rw [trimChars_append before between, (isTrimmed_decimalDigits _).trimChars_eq]
    exact spells_decimalDigits _
  case url => rw [trimChars_append between' behind, address.trimmed.trimChars_eq]

theorem Shows.comma_notMem (shown : Shows piece pair) (address : IsAddress pair.2) :
    ',' ∉ piece := by
  obtain ⟨a, b, c, d, blank, rfl⟩ := shown
  simp only [List.forall_mem_append] at blank
  obtain ⟨⟨⟨before, between⟩, between'⟩, behind⟩ := blank
  simp only [List.mem_append, List.mem_cons, not_or]
  exact ⟨⟨⟨notMem_of_blank rfl before, notMem_decimalDigits rfl _⟩, notMem_of_blank rfl between⟩,
    by decide, ⟨notMem_of_blank rfl between', address.single⟩, notMem_of_blank rfl behind⟩

theorem comma_notMem_of_lists (listed : Lists Shows pieces found)
    (addresses : ∀ pair ∈ found, IsAddress pair.2) : ∀ piece ∈ pieces, ',' ∉ piece := by
  induction listed with
  | nil => exact List.forall_mem_nil _
  | blank blank rest ih => exact List.forall_mem_cons.mpr ⟨notMem_of_blank rfl blank, ih addresses⟩
  | pair shown rest ih =>
      obtain ⟨address, addresses⟩ := List.forall_mem_cons.mp addresses
      exact List.forall_mem_cons.mpr ⟨shown.comma_notMem address, ih addresses⟩

/-- Written pieces that are joined by commas are the pieces that are read. -/
theorem lists_splitOn_intercalate (listed : Lists Shows pieces found)
    (addresses : ∀ pair ∈ found, IsAddress pair.2) :
    Lists Gives (([','].intercalate pieces).splitOn ',') found := by
  have given : Lists Gives pieces found := listed.mono fun piece pair inside shown =>
    shown.gives (addresses pair inside)
  by_cases none : pieces = []
  · subst none
    cases given
    exact .blank (List.forall_mem_nil _) .nil
  · rwa [List.splitOn_intercalate ',' (comma_notMem_of_lists listed addresses) none]

/-- The list of endpoints is read back as it was written: with any blanks around the chains, the
addresses and the pieces, and with any blank pieces in between, each chain has the last address that
is listed for it. And of any text at all, split at its commas, either each piece is blank or gives a
chain and an address, and then the endpoints are those, the later ones winning; or it is an error that
shows the first piece of another kind. -/
theorem parse_inverts_writing :
    (∀ (pieces : List (List Char)) (written : List (UInt64 × String)), Lists Shows pieces written →
      (∀ pair ∈ written, IsAddress pair.2) →
      ∃ clients, parse (String.ofList ([','].intercalate pieces)) = .ok clients ∧
        ∀ chainId : UInt64, clients.endpoints[chainId]? = written.reverse.lookup chainId) ∧
    ∀ text : String,
      (∃ found clients, Lists Gives (text.toList.splitOn ',') found ∧ parse text = .ok clients ∧
        ∀ chainId : UInt64, clients.endpoints[chainId]? = found.reverse.lookup chainId) ∨
      ∃ before bad after, text.toList.splitOn ',' = before ++ bad :: after ∧
        (∃ found, Lists Gives before found) ∧ IsBad bad ∧
        parse text = .error (.invalid "RPC_URLS"
          ("expected chain=url, got " ++ Text.quote (String.ofList (trimChars bad)))) := by
  constructor
  case left =>
    intro pieces written listed addresses
    have given := lists_splitOn_intercalate listed addresses
    have read : parse (String.ofList ([','].intercalate pieces)) = .ok (.ofList written) := by
      apply parse_of_lists
      rwa [String.toList_ofList]
    exact ⟨_, read, Chain.Clients.getElem?_ofList written⟩
  case right =>
    intro text
    obtain ⟨found, listed⟩ | ⟨before, bad, after, whole, ⟨found, listed⟩, fault⟩ :=
      lists_or_exists_bad (text.toList.splitOn ',')
    · exact Or.inl ⟨found, _, listed, parse_of_lists listed, Chain.Clients.getElem?_ofList found⟩
    · exact Or.inr
        ⟨before, bad, after, whole, ⟨found, listed⟩, fault, parse_of_bad whole listed fault⟩

/-- A chain that is listed twice, an address with an equals sign of its own, and a blank piece. -/
theorem parse_inverts_writing_of_repeated_chain :
    Lists Shows [" 1 = one?key=value ".toList, [' '], "10=ten".toList, "1=\tother".toList]
      [(1, "one?key=value"), (10, "ten"), (1, "other")] ∧
    ∃ clients, parse " 1 = one?key=value , ,10=ten,1=\tother" = .ok clients ∧
      clients.endpoints[(1 : UInt64)]? = some "other" ∧
      clients.endpoints[(10 : UInt64)]? = some "ten" := by
  have listed : Lists Shows [" 1 = one?key=value ".toList, [' '], "10=ten".toList, "1=\tother".toList]
      [(1, "one?key=value"), (10, "ten"), (1, "other")] := by
    refine .pair ⟨[' '], [' '], [' '], [' '], by simp [isBlank], by decide +kernel⟩ ?_
    refine .blank (by simp [isBlank]) ?_
    refine .pair ⟨[], [], [], [], by simp, by decide +kernel⟩ ?_
    refine .pair ⟨[], [], ['\t'], [], by simp [isBlank], by decide +kernel⟩ ?_
    exact .nil
  have address (url : String) (filled : url ≠ "")
      (plain : url.toList.all (fun c => c != ',' && !isBlank c) = true) : IsAddress url := by
    simp only [List.all_eq_true, Bool.and_eq_true, bne_iff_ne, Bool.not_eq_true'] at plain
    exact ⟨filled, fun comma => (plain ',' comma).1 rfl,
      isTrimmed_of_forall fun c inside => (plain c inside).2⟩
  have addresses : ∀ pair ∈ [((1 : UInt64), "one?key=value"), (10, "ten"), (1, "other")],
      IsAddress pair.2 := by
    simp only [List.forall_mem_cons]
    exact ⟨address _ (by decide) (by decide +kernel), address _ (by decide) (by decide +kernel),
      address _ (by decide) (by decide +kernel), List.forall_mem_nil _⟩
  obtain ⟨clients, read, last⟩ := parse_inverts_writing.1 _ _ listed addresses
  have text : String.ofList ([','].intercalate [" 1 = one?key=value ".toList, [' '],
      "10=ten".toList, "1=\tother".toList]) = " 1 = one?key=value , ,10=ten,1=\tother" := by
    decide +kernel
  rw [text] at read
  exact ⟨listed, clients, read, last 1, last 10⟩

end Endpoints

end RebateRelay
