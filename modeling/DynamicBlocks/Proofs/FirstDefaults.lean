import DynamicBlocks.Proofs.DefaultedReferences
import DynamicBlocks.Proofs.ParameterOrder

/-!
# The first default of a name

Of the defaults that a configuration gives to one name the first counts, everywhere in it, and none if the parameter is
supplied. So the others can be written as any default (`bindParams_of_sameButLiterals`): the references are then read
where they were, for where no reference starts, another default further on lets one start only by closing a quote that
was left open. There it does make a difference (`bindParams_openQuote_ne`).
-/

set_option autoImplicit false

namespace DynamicBlocks

open Text

/-! ## Texts with other defaults -/

/-- The reference with another default. -/
def DefaultedReference.withLiteral (r : DefaultedReference) {literal : List Char} (isDefault : IsDefault literal) :
    DefaultedReference :=
  { r with literal, isDefault }

/-- In front of its default a reference has one dollar sign only. -/
theorem DefaultedReference.dollarless (r : DefaultedReference) :
    '$' ∉ r.word ++ (r.before ++ '?' :: '?' :: r.after) := by
  have blankless {blanks : List Char} (blank : ∀ c ∈ blanks, isBlank c = true) : '$' ∉ blanks := by
    intro there
    have dollar := blank '$' there
    revert dollar
    decide
  simp only [List.mem_append, List.mem_cons, not_or]
  exact ⟨r.name.dollarless, blankless r.blankBefore, by decide, by decide, blankless r.blankAfter⟩

/-- Whether a text starts like a reference, with a quote where the default starts. -/
def OpensQuote (cs : List Char) : Prop :=
  ∃ r : DefaultedReference, ∃ behind, cs = DefaultedReference.front r.word r.before r.after ++ '\'' :: behind

/-- Two texts that differ in the defaults of their references only. -/
inductive SameButLiterals : List Char → List Char → Prop where
  | nil : SameButLiterals [] []
  /-- A character where no reference starts; if it is for a quote left open, that is not closed in the second either. -/
  | char {c : Char} {cs others : List Char} (free : takeDefaulted? (c :: cs) = none)
      (unclosed : OpensQuote (c :: cs) → takeDefaulted? (c :: others) = none) (more : SameButLiterals cs others) :
      SameButLiterals (c :: cs) (c :: others)
  | reference (r : DefaultedReference) {literal : List Char} (isDefault : IsDefault literal) {behind others : List Char}
      (ends : EndsDefault behind) (more : SameButLiterals behind others) :
      SameButLiterals (r.chars ++ behind) ((r.withLiteral isDefault).chars ++ others)

/-- A default is a text between quotes, or there is neither a quote in it nor a dollar sign. -/
theorem IsDefault.quoted_or_plain {literal : List Char} (h : IsDefault literal) :
    (∃ inner, literal = '\'' :: inner) ∨ '\'' ∉ literal ∧ '$' ∉ literal := by
  have notIn {c : Char} {sign digits : List Char} (signed : sign = [] ∨ sign = ['-'])
      (digit : ∀ c ∈ digits, isDigit c = true) (noSign : c ≠ '-') (noDigit : isDigit c = false) :
      c ∉ sign ++ digits := by
    intro there
    rcases List.mem_append.mp there with there | there
    · rcases signed with rfl | rfl
      · cases there
      · exact noSign (List.mem_singleton.mp there)
    · rw [digit c there] at noDigit
      cases noDigit
  cases h with
  | whole signed _ digit =>
    exact .inr ⟨notIn signed digit (by decide) (by decide), notIn signed digit (by decide) (by decide)⟩
  | @decimal sign digits places signed _ digit _ place =>
    have outside {c : Char} (noSign : c ≠ '-') (noPoint : c ≠ '.') (noDigit : isDigit c = false) :
        c ∉ sign ++ digits ++ '.' :: places := by
      rw [List.mem_append, not_or, List.mem_cons, not_or]
      exact ⟨notIn signed digit noSign noDigit, noPoint, notIn (.inl rfl) place noSign noDigit⟩
    exact .inr ⟨outside (by decide) (by decide) (by decide), outside (by decide) (by decide) (by decide)⟩
  | yes | no => exact .inr (by decide)
  | quoted _ => exact .inl ⟨_, rfl⟩

namespace SameButLiterals

variable {cs others : List Char}

/-- Texts that are the same but for literals start alike. -/
theorem head?_eq (same : SameButLiterals cs others) : cs.head? = others.head? := by
  cases same <;> rfl

/-- Characters other than the dollar sign are there in both texts. -/
theorem exists_of_append {front : List Char} (dollarless : '$' ∉ front) (same : SameButLiterals cs (front ++ others)) :
    ∃ behind, cs = front ++ behind ∧ SameButLiterals behind others := by
  induction front generalizing cs with
  | nil => exact ⟨cs, rfl, same⟩
  | cons c front ih =>
    rw [List.mem_cons, not_or] at dollarless
    generalize text : c :: front ++ others = second at same
    cases same with
    | nil => cases text
    | char free unclosed more =>
      obtain ⟨rfl, rfl⟩ := List.cons.inj text
      obtain ⟨behind, rfl, same⟩ := ih dollarless.2 more
      exact ⟨behind, rfl, same⟩
    | reference r isDefault ends more => exact absurd (List.cons.inj text).1.symm dollarless.1

/-- Where no reference starts and no quote is left open none starts in the second text: what would make one stands in
the first text too. -/
theorem takeDefaulted?_eq_none {c : Char} (same : SameButLiterals cs others) (free : takeDefaulted? (c :: cs) = none)
    (closed : ¬OpensQuote (c :: cs)) : takeDefaulted? (c :: others) = none := by
  by_contra taken
  obtain ⟨⟨name, literal, rest⟩, taken⟩ := Option.ne_none_iff_exists'.mp taken
  obtain ⟨r, written, -, -⟩ := exists_reference_of_takeDefaulted? taken
  rw [DefaultedReference.chars, DefaultedReference.front, List.cons_append, List.cons_append, List.append_assoc,
    List.cons.injEq] at written
  obtain ⟨rfl, rfl⟩ := written
  obtain ⟨behind, rfl, back⟩ := same.exists_of_append r.dollarless
  rcases r.isDefault.quoted_or_plain with ⟨inner, quoted⟩ | ⟨unquoted, plain⟩
  · rw [quoted] at back
    have quote : '$' ∉ ['\''] := by decide
    obtain ⟨more, rfl, -⟩ := exists_of_append quote back
    exact closed ⟨r, more, rfl⟩
  · obtain ⟨more, rfl, -⟩ := back.exists_of_append plain
    have default := isSome_takeDefault?_append r.isDefault unquoted more
    have reads := takeDefaulted?_front r.name r.blankBefore r.blankAfter (r.isDefault.solid more)
    rw [DefaultedReference.front, List.cons_append, free] at reads
    rw [Option.map_eq_none_iff.mp reads.symm] at default
    cases default

end SameButLiterals

/-- A piece without what the default says. -/
def ParamPiece.nameOnly : ParamPiece → ParamPiece
  | .char c => .char c
  | .defaulted name _ => .defaulted name []

/-- Texts that differ in defaults only are read alike. -/
theorem SameButLiterals.map_nameOnly {cs others : List Char} (same : SameButLiterals cs others) :
    (paramPiecesFrom 0 cs).map ParamPiece.nameOnly = (paramPiecesFrom 0 others).map ParamPiece.nameOnly := by
  induction same with
  | nil => rfl
  | @char c cs others free unclosed more ih =>
    have free' : takeDefaulted? (c :: others) = none := by
      by_cases closed : OpensQuote (c :: cs)
      · exact unclosed closed
      · exact more.takeDefaulted?_eq_none free closed
    rw [paramPiecesFrom_char free, paramPiecesFrom_char free', List.map_cons, List.map_cons, ih]
  | reference r isDefault ends more ih =>
    have ends' : EndsDefault _ := fun c head => ends c (more.head?_eq.trans head)
    rw [r.paramPiecesFrom_chars ends, (r.withLiteral isDefault).paramPiecesFrom_chars ends', List.map_cons,
      List.map_cons, ih]
    rfl

/-! ## Values with other defaults -/

namespace Value

/-- Two values that differ in nothing but the defaults of references in their texts. -/
inductive SameButLiterals : Value → Value → Prop where
  | refl (v : Value) : SameButLiterals v v
  | trans {u v w : Value} : SameButLiterals u v → SameButLiterals v w → SameButLiterals u w
  | text {s other : String} : DynamicBlocks.SameButLiterals s.toList other.toList →
      SameButLiterals (.text s) (.text other)
  /-- One of the items of a list with other defaults. -/
  | item (before after : List Value) {v w : Value} :
    SameButLiterals v w → SameButLiterals (.list (before ++ v :: after)) (.list (before ++ w :: after))
  /-- The value of one of the entries of a mapping with other defaults. -/
  | entry (before after : Entries) (key : Value) {v w : Value} :
    SameButLiterals v w → SameButLiterals (.map (before ++ (key, v) :: after)) (.map (before ++ (key, w) :: after))

/-- Values that differ in defaults only have defaults under the same names, in the same order. -/
theorem SameButLiterals.names_eq {v w : Value} (same : v.SameButLiterals w) :
    v.defaults.map (·.1) = w.defaults.map (·.1) := by
  induction same with
  | refl v => rfl
  | trans _ _ first second => exact first.trans second
  | @text s other same =>
    have names (pieces : List ParamPiece) : (pieces.filterMap ParamPiece.default?).map (·.1) =
        ((pieces.map ParamPiece.nameOnly).filterMap ParamPiece.default?).map (·.1) := by
      induction pieces with
      | nil => rfl
      | cons piece pieces ih =>
        cases piece with
        | char c => exact ih
        | defaulted name literal => exact congrArg (String.ofList name :: ·) ih
    rw [defaults, defaults, names, names (paramPieces other)]
    unfold paramPieces
    rw [same.map_nameOnly]
  | item before after _ ih =>
    simp only [defaults, defaultsOfItems_append, defaultsOfItems, List.map_append, ih]
  | entry before after key _ ih =>
    simp only [defaults, defaultsOfEntries_append, defaultsOfEntries, List.map_append, ih]

end Value

/-- Filling in defaults does the same with both. -/
theorem bindDefaulted_of_sameButLiterals {s other : String} (same : SameButLiterals s.toList other.toList)
    (params : Entries) : bindDefaulted params s = bindDefaulted params other := by
  have nameOnly {f : ParamPiece → List Char} (blind : ∀ piece, f piece = f piece.nameOnly) (pieces : List ParamPiece) :
      pieces.flatMap f = (pieces.map ParamPiece.nameOnly).flatMap f := by
    rw [List.flatMap_map]
    exact List.flatMap_congr fun piece _ => blind piece
  unfold bindDefaulted paramPieces
  rw [nameOnly (fun piece => by cases piece <;> rfl), nameOnly (fun piece => by cases piece <;> rfl)
    (paramPiecesFrom 0 other.toList), same.map_nameOnly]

/-- With the same parameters, values that differ in defaults only are bound alike. -/
theorem bindParams_sameParams {v w : Value} (same : v.SameButLiterals w) (params : Entries) :
    bindParams params v = bindParams params w := by
  have items (before after : List Value) {v w : Value} (here : bindParams params v = bindParams params w) :
      bindItems params (before ++ v :: after) = bindItems params (before ++ w :: after) := by
    induction before with
    | nil => rw [List.nil_append, List.nil_append, bindItems, bindItems, here]
    | cons item before ih => rw [List.cons_append, List.cons_append, bindItems, bindItems, ih]
  have entries (before after : Entries) (key : Value) {v w : Value}
      (here : bindParams params v = bindParams params w) :
      bindEntries params (before ++ (key, v) :: after) = bindEntries params (before ++ (key, w) :: after) := by
    induction before with
    | nil => rw [List.nil_append, List.nil_append, bindEntries, bindEntries, here]
    | cons entry before ih => rw [List.cons_append, List.cons_append, bindEntries, bindEntries, ih]
  induction same with
  | refl v => rfl
  | trans _ _ first second => exact first.trans second
  | @text s other same =>
    show bindText params s = bindText params other
    unfold bindText
    rw [bindDefaulted_of_sameButLiterals same]
  | item before after _ ih => rw [bindParams, bindParams, items before after ih]
  | entry before after key _ ih => rw [bindParams, bindParams, entries before after key ih]

/-! ## Merged parameters -/

/-- What is set in both makes no difference between entries with the same keys. -/
theorem Entries.insertAll_eq_of_forall₂ {entries others more : Entries}
    (same : List.Forall₂ (fun entry other : Value × Value =>
      entry.1 = other.1 ∧ (entry.2 = other.2 ∨ ∃ set ∈ more, entry.1.agrees set.1 = true)) entries others) :
    insertAll entries more = insertAll others more := by
  induction more generalizing entries others with
  | nil =>
    have each := same.imp fun entry other alike => Prod.ext alike.1 (alike.2.resolve_right (by simp))
    rw [List.forall₂_eq_eq_eq] at each
    rw [each]
  | cons first more ih =>
    show insertAll (insert entries first.1 first.2) more = insertAll (insert others first.1 first.2) more
    apply ih
    have found : (entries.any fun entry => entry.1.agrees first.1) =
        others.any fun entry => entry.1.agrees first.1 := by
      clear ih
      induction same with
      | nil => rfl
      | cons alike _ ih => rw [List.any_cons, List.any_cons, alike.1, ih]
    have later {entry other : Value × Value} (alike : entry.1 = other.1 ∧
        (entry.2 = other.2 ∨ ∃ set ∈ first :: more, entry.1.agrees set.1 = true))
        (different : ¬entry.1.agrees first.1) :
        entry.1 = other.1 ∧ (entry.2 = other.2 ∨ ∃ set ∈ more, entry.1.agrees set.1 = true) := by
      refine ⟨alike.1, alike.2.imp_right ?_⟩
      rintro ⟨set, there, agrees⟩
      rcases List.mem_cons.mp there with rfl | there
      · exact absurd agrees different
      · exact ⟨set, there, agrees⟩
    unfold insert
    rw [← found]
    split
    · rw [List.forall₂_map_left_iff, List.forall₂_map_right_iff]
      refine same.imp fun entry other alike => ?_
      rw [← alike.1]
      split
      · exact ⟨rfl, .inl rfl⟩
      · rename_i different
        exact later alike different
    · rename_i absent
      have fresh : ∀ entry ∈ entries, ¬entry.1.agrees first.1 = true := fun entry there agrees =>
        absent (List.any_eq_true.mpr ⟨entry, there, agrees⟩)
      have kept := ((List.forall₂_and_left _ _).mpr ⟨fresh, same⟩).imp fun _ _ both => later both.2 both.1
      exact List.rel_append kept (.cons ⟨rfl, .inl rfl⟩ .nil)

/-- The defaults of a configuration other than the first one of each name can be written as any default, and those of
supplied parameters all. -/
theorem bindParams_of_sameButLiterals {config other : Value} (same : config.SameButLiterals other) {params : Entries}
    (firsts : ∀ name, (Entries.field? params name).isSome = true ∨
      config.defaults.lookup name = other.defaults.lookup name) :
    bindParams (withDefaults config params) config = bindParams (withDefaults other params) other := by
  have merged : withDefaults config params = withDefaults other params := by
    unfold withDefaults
    rw [declaredDefaults_eq, declaredDefaults_eq]
    apply Entries.insertAll_eq_of_forall₂
    unfold firstDefaults
    rw [same.names_eq, List.forall₂_map_left_iff, List.forall₂_map_right_iff, List.forall₂_same]
    intro name _
    refine ⟨rfl, ?_⟩
    rcases firsts name with supplied | first
    · right
      obtain ⟨entry, there, same⟩ := Entries.isSome_field?_iff.mp supplied
      refine ⟨entry, there, ?_⟩
      rw [same]
      exact Value.agrees_text.mpr rfl
    · left
      dsimp only
      rw [firstDefault, firstDefault, first]
  rw [merged, bindParams_sameParams same]

/-- A list of texts with several defaults of one name, the first of which is 2, and one of another. -/
def withLaterDefaults (later other : String) : Value :=
  .list [.text "$a ?? 2", .text ("$a ?? " ++ later ++ " $b ?? " ++ other)]

/-- The two texts differ only in literals of later defaults. -/
theorem sameButLiterals_withLaterDefaults :
    (withLaterDefaults "1" "3").SameButLiterals (withLaterDefaults "'x'" "4") := by
  have a : IsName ['a'] := isName_singleton (by decide)
  have b : IsName ['b'] := isName_singleton (by decide)
  have one : IsDefault ['1'] := .digit (by decide)
  have three : IsDefault ['3'] := .digit (by decide)
  have four : IsDefault ['4'] := .digit (by decide)
  have quoted : IsDefault ['\'', 'x', '\''] := @IsDefault.quoted ['x'] (by decide)
  have last := SameButLiterals.reference (.spaced b three) four endsDefault_nil .nil
  have blank := SameButLiterals.char (c := ' ') (takeDefaulted?_of_ne _ _ (by decide))
    (fun _ => takeDefaulted?_of_ne _ _ (by decide)) last
  have first := SameButLiterals.reference (.spaced a one) quoted (endsDefault_cons (by decide) (by decide)) blank
  exact .item [.text "$a ?? 2"] [] (.text first)

/-- One of them is bound by the first default and the parameter supplied, and so the other is too. -/
theorem bindParams_withLaterDefaults :
    bindParams (withDefaults (withLaterDefaults "1" "3") [(.text "$b", .text "y")]) (withLaterDefaults "1" "3") =
        .ok (.list [.text "2", .text "2 y"]) ∧
      bindParams (withDefaults (withLaterDefaults "'x'" "4") [(.text "$b", .text "y")])
        (withLaterDefaults "'x'" "4") = .ok (.list [.text "2", .text "2 y"]) := by
  have found : (withLaterDefaults "1" "3").defaults = [("$a", "2"), ("$a", "1"), ("$b", "3")] := by cbv
  have found' : (withLaterDefaults "'x'" "4").defaults = [("$a", "2"), ("$a", "'x'"), ("$b", "4")] := by cbv
  have firsts (name : String) : (Entries.field? [(.text "$b", .text "y")] name).isSome = true ∨
      (withLaterDefaults "1" "3").defaults.lookup name = (withLaterDefaults "'x'" "4").defaults.lookup name := by
    by_cases supplied : name = "$b"
    · subst supplied
      exact .inl (by cbv)
    · right
      rw [found, found']
      by_cases first : name = "$a"
      · rw [first]
        rfl
      · have other : (name == "$a") = false := beq_eq_false_iff_ne.mpr first
        have other' : (name == "$b") = false := beq_eq_false_iff_ne.mpr supplied
        simp [List.lookup_cons, other, other']
  have bound : bindParams (withDefaults (withLaterDefaults "1" "3") [(.text "$b", .text "y")])
      (withLaterDefaults "1" "3") = .ok (.list [.text "2", .text "2 y"]) := by
    cbv
  exact ⟨bound, (bindParams_of_sameButLiterals sameButLiterals_withLaterDefaults firsts).symm.trans bound⟩

/-- Names that are not in a text leave it as it is. -/
theorem replaceNames_of_absent {named : List (String × Value)} {s : String}
    (absent : ∀ param ∈ named, contains s param.1 = false) : replaceNames named s = .ok s := by
  induction named with
  | nil => rfl
  | cons param named ih =>
    show replaceName param s >>= replaceNames named = _
    rw [replaceName, absent param List.mem_cons_self, if_neg Bool.false_ne_true]
    exact ih fun other there => absent other (List.mem_cons_of_mem param there)

/-- A list of texts in the second of which a quote is left open in front of a default. -/
def openQuote (later : String) : Value :=
  .list [.text "$a ?? 2", .text ("$c ?? ' $a ?? " ++ later)]

/-- A number behind an open quote is no default, so the first default is the later one. -/
theorem bindParams_openQuote_one :
    bindParams (withDefaults (openQuote "1") []) (openQuote "1") = .ok (.list [.text "2", .text "$c ?? ' 2"]) := by
  have params : withDefaults (openQuote "1") [] = [(.text "$a", .int 2)] := by cbv
  have absent : contains "$c ?? ' 2" "$a" = false := by cbv
  have kept : replaceNames [("$a", .int 2)] "$c ?? ' 2" = .ok "$c ?? ' 2" :=
    replaceNames_of_absent (by simpa using absent)
  have first : bindText [(.text "$a", .int 2)] "$a ?? 2" = .ok (.text "2") := by cbv
  have second : bindText [(.text "$a", .int 2)] "$c ?? ' $a ?? 1" = .ok (.text "$c ?? ' 2") :=
    bindText_of_replaceNames (by cbv) (by cbv) (by cbv) kept
  rw [params]
  show (bindItems _ [.text "$a ?? 2", .text "$c ?? ' $a ?? 1"] >>= fun items => pure (Value.list items)) = _
  simp only [bindItems, bindParams, first, second]
  rfl

/-- A quoted text behind an open quote closes it, and something else is left. -/
theorem bindParams_openQuote_quoted :
    bindParams (withDefaults (openQuote "' b '") []) (openQuote "' b '") =
      .ok (.list [.text "2", .text " 2 ??  b '"]) := by
  have found : (openQuote "' b '").defaults = [("$a", "2"), ("$c", "' $a ?? '")] := by cbv
  have two : defaultValue "2" = .int 2 := by cbv
  have quoted : defaultValue "' $a ?? '" = .text " $a ?? " := defaultValue_quoted " $a ?? ".toList
  have params : withDefaults (openQuote "' b '") [] = [(.text "$a", .int 2), (.text "$c", .text " $a ?? ")] := by
    show declaredDefaults _ = _
    rw [declaredDefaults_eq, found]
    show [(Value.text "$a", defaultValue "2"), (Value.text "$c", defaultValue "' $a ?? '")] = _
    rw [two, quoted]
  have absent : contains " 2 ??  b '" "$c" = false := by cbv
  have replaced : replaceName ("$a", .int 2) " $a ??  b '" = .ok " 2 ??  b '" := by cbv
  have kept : replaceNames [("$a", .int 2), ("$c", .text " $a ?? ")] " $a ??  b '" = .ok " 2 ??  b '" := by
    show replaceName _ _ >>= replaceNames [("$c", .text " $a ?? ")] = _
    rw [replaced]
    exact replaceNames_of_absent (by simpa using absent)
  have first : bindText [(.text "$a", .int 2), (.text "$c", .text " $a ?? ")] "$a ?? 2" = .ok (.text "2") := by cbv
  have second : bindText [(.text "$a", .int 2), (.text "$c", .text " $a ?? ")] "$c ?? ' $a ?? ' b '" =
      .ok (.text " 2 ??  b '") :=
    bindText_of_replaceNames (by cbv) (by cbv) (by cbv) kept
  rw [params]
  show (bindItems _ [.text "$a ?? 2", .text "$c ?? ' $a ?? ' b '"] >>= fun items => pure (Value.list items)) = _
  simp only [bindItems, bindParams, first, second]
  rfl

/-- A later default that closes a quote makes a default of what stands behind the quote. -/
theorem bindParams_openQuote_ne :
    (openQuote "1").defaults = [("$a", "2"), ("$a", "1")] ∧ IsDefault "' b '".toList ∧
      bindParams (withDefaults (openQuote "1") []) (openQuote "1") ≠
        bindParams (withDefaults (openQuote "' b '") []) (openQuote "' b '") := by
  refine ⟨by cbv, @IsDefault.quoted [' ', 'b', ' '] (by decide), ?_⟩
  rw [bindParams_openQuote_one, bindParams_openQuote_quoted]
  simp

end DynamicBlocks
