import FlatMessage.Xml.Markup
import Mathlib.Data.List.Infix
import Mathlib.Data.List.TakeWhile

/-!
# Where markup ends

Every scan for the end of markup passes over a text of its own kind: a tag whose quotation
marks are closed, a comment up to the first closing mark, a reference up to its semicolon.
The scan finds an end exactly where such a text is followed by it, and what follows does not
matter.
-/

namespace FlatMessage.Xml

/-! ## Runs of characters -/

section

variable {isInside : Char → Bool} {run rest : List Char}

theorem takeWhile_run (inside : ∀ c ∈ run, isInside c = true)
    (ends : ∀ c ∈ rest.head?, isInside c = false) : (run ++ rest).takeWhile isInside = run := by
  have stops : rest.takeWhile isInside = [] := by
    cases rest with
    | nil => rfl
    | cons c rest => rw [List.takeWhile_cons, if_neg (by simp [ends c rfl])]
  rw [List.takeWhile_append_of_pos inside, stops, List.append_nil]

theorem dropWhile_run (inside : ∀ c ∈ run, isInside c = true)
    (ends : ∀ c ∈ rest.head?, isInside c = false) : (run ++ rest).dropWhile isInside = rest := by
  have stops : rest.dropWhile isInside = rest := by
    cases rest with
    | nil => rfl
    | cons c rest => rw [List.dropWhile_cons, if_neg (by simp [ends c rfl])]
  rw [List.dropWhile_append_of_pos inside, stops]

theorem takeWhile_run_cons {c : Char} (inside : ∀ d ∈ run, isInside d = true)
    (ends : isInside c = false) : (run ++ c :: rest).takeWhile isInside = run :=
  takeWhile_run inside (by rintro _ ⟨⟩; exact ends)

theorem dropWhile_run_cons {c : Char} (inside : ∀ d ∈ run, isInside d = true)
    (ends : isInside c = false) : (run ++ c :: rest).dropWhile isInside = c :: rest :=
  dropWhile_run inside (by rintro _ ⟨⟩; exact ends)

/-- What follows the longest run does not begin with a character of it. -/
theorem eq_false_of_mem_head?_dropWhile {chars : List Char} :
    ∀ c ∈ (chars.dropWhile isInside).head?, isInside c = false := by
  intro c first
  have stops := List.head?_dropWhile_not isInside chars
  rw [Option.mem_def.mp first] at stops
  simpa using stops

/-- A text is a run and what is behind the run. -/
theorem exists_run_of_dropWhile_eq {c : Char} {chars : List Char}
    (left : chars.dropWhile isInside = c :: rest) :
    ∃ run, (∀ d ∈ run, isInside d = true) ∧ isInside c = false ∧ chars = run ++ c :: rest := by
  refine ⟨chars.takeWhile isInside, fun _ => List.mem_takeWhile_imp, ?_, ?_⟩
  · have first : c ∈ (chars.dropWhile isInside).head? := by
      rw [left, List.head?_cons, Option.mem_some]
    exact eq_false_of_mem_head?_dropWhile c first
  · rw [← left, List.takeWhile_append_dropWhile]

theorem drop_length_takeWhile (isInside : Char → Bool) (chars : List Char) :
    chars.drop (chars.takeWhile isInside).length = chars.dropWhile isInside := by
  calc chars.drop (chars.takeWhile isInside).length
      = (chars.takeWhile isInside ++ chars.dropWhile isInside).drop
          (chars.takeWhile isInside).length := by rw [List.takeWhile_append_dropWhile]
    _ = chars.dropWhile isInside := List.drop_left

end

/-! ## Tags -/

/-- The text of a tag from a place where the quotation mark `quote` is open: every quotation
mark is closed, and outside quotes there is no angle bracket that would end the tag. -/
inductive IsTagText : Option Char → List Char → Prop
  | nil : IsTagText none []
  | plain {c : Char} {rest : List Char} (other : c ≠ '>' ∧ c ≠ '\'' ∧ c ≠ '"')
      (text : IsTagText none rest) : IsTagText none (c :: rest)
  | quote {c : Char} {rest : List Char} (mark : c = '\'' ∨ c = '"')
      (text : IsTagText (some c) rest) : IsTagText none (c :: rest)
  | quoted {mark c : Char} {rest : List Char} (inside : c ≠ mark)
      (text : IsTagText (some mark) rest) : IsTagText (some mark) (c :: rest)
  | unquote {mark : Char} {rest : List Char} (text : IsTagText none rest) :
      IsTagText (some mark) (mark :: rest)

theorem IsTagText.append {quote : Option Char} {chars more : List Char}
    (text : IsTagText quote chars) (later : IsTagText none more) :
    IsTagText quote (chars ++ more) := by
  induction text with
  | nil => exact later
  | plain other _ ih => exact .plain other ih
  | quote mark _ ih => exact .quote mark ih
  | quoted inside _ ih => exact .quoted inside ih
  | unquote _ ih => exact .unquote ih

/-- A tag ends at the first angle bracket outside quotes. -/
theorem untilTagEnd_eq_some_iff {quote : Option Char} {chars tag rest : List Char} :
    untilTagEnd quote chars = some (tag, rest) ↔
      IsTagText quote tag ∧ chars = tag ++ '>' :: rest := by
  constructor
  · intro found
    induction chars generalizing quote tag with
    | nil => cases found
    | cons c chars ih =>
        have continued {state : Option Char}
            (later : (untilTagEnd state chars).map (fun found => (c :: found.1, found.2)) =
              some (tag, rest)) :
            ∃ inner, IsTagText state inner ∧ tag = c :: inner ∧ chars = inner ++ '>' :: rest := by
          obtain ⟨⟨inner, after⟩, ended, same⟩ := Option.map_eq_some_iff.mp later
          cases same
          obtain ⟨text, rfl⟩ := ih ended
          exact ⟨inner, text, rfl, rfl⟩
        cases quote with
        | some mark =>
            obtain ⟨inner, text, rfl, rfl⟩ := continued found
            split at text
            · next closes =>
                subst closes
                exact ⟨.unquote text, rfl⟩
            · next inside => exact ⟨.quoted inside text, rfl⟩
        | none =>
            simp only [untilTagEnd] at found
            split at found
            · next ends =>
                cases found
                exact ⟨.nil, by rw [ends, List.nil_append]⟩
            · next open_ =>
                split at found
                · next mark =>
                    obtain ⟨inner, text, rfl, rfl⟩ := continued found
                    exact ⟨.quote mark text, rfl⟩
                · next other =>
                    obtain ⟨inner, text, rfl, rfl⟩ := continued found
                    exact ⟨.plain ⟨open_, not_or.mp other⟩ text, rfl⟩
  · rintro ⟨text, rfl⟩
    induction text with
    | nil => rfl
    | plain other _ ih => simp [untilTagEnd, other, ih]
    | @quote c inner mark _ ih =>
        have inside : c ≠ '>' := by rcases mark with rfl | rfl <;> decide
        simp [untilTagEnd, mark, inside, ih]
    | quoted inside _ ih => simp [untilTagEnd, inside, ih]
    | unquote _ ih => simp [untilTagEnd, ih]

/-! ## Marks that close -/

section

variable {mark : List Char}

theorem append_dropLast_isPrefix (body mark rest : List Char) :
    body ++ mark.dropLast <+: body ++ mark ++ rest := by
  rw [List.append_assoc]
  refine (List.prefix_append_right_inj _).mpr ?_
  exact (List.dropLast_prefix mark).trans (List.prefix_append mark rest)

/-- A closing mark at the start of a text that another one closes begins before that one. -/
theorem prefix_of_prefix_closed (filled : mark ≠ []) {c : Char} {body rest : List Char}
    (here : mark <+: c :: body ++ mark ++ rest) : mark <+: c :: body ++ mark.dropLast := by
  refine List.prefix_of_prefix_length_le here (append_dropLast_isPrefix _ _ _) ?_
  have := List.length_pos_iff.mpr filled
  simp only [List.length_append, List.length_cons, List.length_dropLast]
  omega

/-- The first closing mark is found. -/
theorem after?_eq_some_iff (filled : mark ≠ []) {chars rest : List Char} :
    after? mark chars = some rest ↔
      ∃ body, ¬ mark <:+: body ++ mark.dropLast ∧ chars = body ++ mark ++ rest := by
  have atOnce : ¬ mark <:+: mark.dropLast := by
    intro within
    have shorter := within.length_le
    have := List.length_pos_iff.mpr filled
    rw [List.length_dropLast] at shorter
    omega
  induction chars with
  | nil =>
      rw [after?, if_neg (by simpa using filled)]
      simp [filled]
  | cons c chars ih =>
      rw [after?]
      cases found : mark.isPrefixOf? (c :: chars) with
      | some after =>
          have here : mark ++ after = c :: chars := List.append_eq_of_isPrefixOf?_eq_some found
          constructor
          · rintro ⟨⟩
            exact ⟨[], atOnce, here.symm⟩
          · rintro ⟨body, first, whole⟩
            cases body with
            | nil => rw [List.append_cancel_left (here.trans whole)]
            | cons d body =>
                have start : mark <+: d :: body ++ mark ++ rest := ⟨after, here.trans whole⟩
                exact absurd (prefix_of_prefix_closed filled start).isInfix first
      | none =>
          have elsewhere : ¬ mark <+: c :: chars := by
            rintro ⟨after, here⟩
            rw [← here, List.isPrefixOf?_eq_some_iff_append_eq.mpr rfl] at found
            cases found
          refine ih.trans ⟨?_, ?_⟩
          · rintro ⟨body, first, rfl⟩
            refine ⟨c :: body, fun within => ?_, rfl⟩
            rcases List.infix_cons_iff.mp within with start | later
            · exact elsewhere (start.trans (append_dropLast_isPrefix (c :: body) mark rest))
            · exact first later
          · rintro ⟨body, first, whole⟩
            cases body with
            | nil => exact absurd ⟨rest, whole.symm⟩ elsewhere
            | cons d body =>
                obtain ⟨rfl, rfl⟩ := List.cons.inj whole
                exact ⟨body, fun within => first (List.infix_cons within), rfl⟩

end

/-- A general reference ends at its semicolon. -/
theorem afterReference?_eq_some_iff {chars rest : List Char} :
    afterReference? chars = some rest ↔
      ∃ name, (∀ c ∈ name, c ≠ ';' ∧ c ≠ '&' ∧ c ≠ '<') ∧ chars = name ++ ';' :: rest := by
  constructor
  · intro found
    induction chars with
    | nil => cases found
    | cons c chars ih =>
        rw [afterReference?] at found
        split at found
        · next closes =>
            cases found
            exact ⟨[], nofun, by rw [closes]; rfl⟩
        · next open_ =>
            split at found
            · cases found
            · next other =>
                obtain ⟨name, plain, rfl⟩ := ih found
                rw [not_or] at other
                exact ⟨c :: name, List.forall_mem_cons.mpr ⟨⟨open_, other⟩, plain⟩, rfl⟩
  · rintro ⟨name, plain, rfl⟩
    induction name with
    | nil => rfl
    | cons c name ih =>
        rw [List.forall_mem_cons] at plain
        simp [afterReference?, plain.1, ih plain.2]

/-! ## Document type declarations -/

/-- What a character does to the state of a declaration, and how many of the characters after
it are passed over with it; nothing if it ends the declaration. -/
def TypeState.step (state : TypeState) (c : Char) (rest : List Char) : Option (TypeState × Nat) :=
  match state with
  | .before =>
      if c = '>' then none
      else if c = '[' then some (.subset, 0)
      else if c = '"' ∨ c = '\'' then some (.quotedBefore c, 0)
      else some (.before, 0)
  | .quotedBefore mark => some (if c = mark then .before else .quotedBefore mark, 0)
  | .subset =>
      if c = ']' then some (.behind, 0)
      else if c = '<' then some (TypeState.ofMarkup rest)
      else some (.subset, 0)
  | .plain => some (if c = '>' then .subset else .plain, 0)
  | .declaration =>
      if c = '>' then some (.subset, 0)
      else if c = '"' ∨ c = '\'' then some (.quoted c, 0)
      else some (.declaration, 0)
  | .quoted mark => some (if c = mark then .declaration else .quoted mark, 0)
  | .comment =>
      if c = '-' ∧ "->".toList.isPrefixOf rest then some (.subset, 2) else some (.comment, 0)
  | .instruction =>
      if c = '?' ∧ rest.head? = some '>' then some (.subset, 1) else some (.instruction, 0)
  | .behind => if c = '>' then none else some (.behind, 0)

section

variable {state next : TypeState} {skip : Nat} {c : Char} {chars body after more : List Char}

theorem afterTypeDeclaration?_cons (state : TypeState) (c : Char) (rest : List Char) :
    afterTypeDeclaration? state 0 (c :: rest) =
      match state.step c rest with
      | none => some rest
      | some (next, skip) => afterTypeDeclaration? next skip rest := by
  cases state <;> simp only [afterTypeDeclaration?, TypeState.step] <;> split_ifs <;> rfl

theorem step_eq_none_iff {rest : List Char} :
    state.step c rest = none ↔ c = '>' ∧ (state = .before ∨ state = .behind) := by
  cases state <;> simp only [TypeState.step] <;> split_ifs <;> simp_all

theorem mem_of_afterTypeDeclaration? (found : afterTypeDeclaration? state skip chars = some after) :
    '>' ∈ chars := by
  induction chars generalizing state skip with
  | nil => cases found
  | cons c chars ih =>
      cases skip with
      | succ skip => exact List.mem_cons_of_mem c (ih found)
      | zero =>
          rw [afterTypeDeclaration?_cons] at found
          split at found
          · next ends =>
              rw [(step_eq_none_iff.mp ends).1]
              exact List.mem_cons_self
          · exact List.mem_cons_of_mem c (ih found)

/-- Words without an angle bracket are found before one whatever follows it. -/
theorem isPrefixOf_append_of_mem {word : List Char} {c : Char} (absent : c ∉ word)
    (present : c ∈ body) (more : List Char) :
    word.isPrefixOf (body ++ more) = word.isPrefixOf body := by
  rw [Bool.eq_iff_iff, List.isPrefixOf_iff_prefix, List.isPrefixOf_iff_prefix]
  refine ⟨fun start => ?_, fun start => start.trans (List.prefix_append body more)⟩
  rcases List.prefix_or_prefix_of_prefix start (List.prefix_append body more) with within | short
  · exact within
  · exact absurd (short.subset present) absent

theorem ofMarkup_append (present : '>' ∈ body) (more : List Char) :
    TypeState.ofMarkup (body ++ more) = TypeState.ofMarkup body := by
  have same (word : String) (absent : '>' ∉ word.toList) :=
    isPrefixOf_append_of_mem absent present more
  have quotable : (["!ENTITY", "!ATTLIST", "!NOTATION"].any fun word =>
      word.toList.isPrefixOf (body ++ more)) =
      ["!ENTITY", "!ATTLIST", "!NOTATION"].any fun word => word.toList.isPrefixOf body := by
    simp only [List.any_cons, List.any_nil, same "!ENTITY" (by decide),
      same "!ATTLIST" (by decide), same "!NOTATION" (by decide)]
  simp only [TypeState.ofMarkup, quotable, same "!--" (by decide), same "?" (by decide)]

/-- What a character does in a declaration that ends in what follows does not depend on
what comes after the end. -/
theorem step_append (found : afterTypeDeclaration? next skip body = some after)
    (leads : state.step c body = some (next, skip) ∨
      state.step c (body ++ more) = some (next, skip)) :
    state.step c (body ++ more) = state.step c body := by
  have present := mem_of_afterTypeDeclaration? found
  cases state with
  | subset => rw [TypeState.step, ofMarkup_append present, TypeState.step]
  | comment =>
      -- a comment does not end with less than two characters after this one
      obtain ⟨d, e, rest, rfl⟩ : ∃ d e rest, body = d :: e :: rest := by
        have reached : (next = .subset ∧ skip = 2) ∨ (next = .comment ∧ skip = 0) := by
          rcases leads with leads | leads <;> simp only [TypeState.step] at leads <;>
            split_ifs at leads <;> simp_all
        match body, present with
        | [d], single =>
            rw [← List.mem_singleton.mp single] at found
            rcases reached with ⟨rfl, rfl⟩ | ⟨rfl, rfl⟩ <;> cases found
        | d :: e :: rest, _ => exact ⟨d, e, rest, rfl⟩
      rfl
  | instruction =>
      have same : (body ++ more).head? = body.head? :=
        List.head?_append_of_ne_nil _ (List.ne_nil_of_mem present)
      rw [TypeState.step, same, TypeState.step]
  | _ => rfl

/-- A declaration ends at the same place whatever comes after. -/
theorem afterTypeDeclaration?_append (found : afterTypeDeclaration? state skip chars = some after)
    (more : List Char) :
    afterTypeDeclaration? state skip (chars ++ more) = some (after ++ more) := by
  induction chars generalizing state skip with
  | nil => cases found
  | cons c chars ih =>
      cases skip with
      | succ skip => exact ih found
      | zero =>
          rw [afterTypeDeclaration?_cons] at found
          rw [List.cons_append, afterTypeDeclaration?_cons]
          cases leads : state.step c chars with
          | none =>
              rw [leads] at found
              cases found
              rw [step_eq_none_iff.mpr (step_eq_none_iff.mp leads)]
          | some reached =>
              rw [leads] at found
              rw [step_append found (.inl leads), leads]
              exact ih found

/-- A declaration is a text of its own before what comes after. -/
theorem exists_of_afterTypeDeclaration?
    (found : afterTypeDeclaration? state skip chars = some after) :
    ∃ body, afterTypeDeclaration? state skip body = some [] ∧ chars = body ++ after := by
  induction chars generalizing state skip with
  | nil => cases found
  | cons c chars ih =>
      cases skip with
      | succ skip =>
          obtain ⟨body, ends, rfl⟩ := ih found
          exact ⟨c :: body, ends, rfl⟩
      | zero =>
          rw [afterTypeDeclaration?_cons] at found
          cases leads : state.step c chars with
          | none =>
              rw [leads] at found
              cases found
              refine ⟨[c], ?_, rfl⟩
              rw [afterTypeDeclaration?_cons, step_eq_none_iff.mpr (step_eq_none_iff.mp leads)]
          | some reached =>
              rw [leads] at found
              obtain ⟨body, ends, rfl⟩ := ih found
              refine ⟨c :: body, ?_, rfl⟩
              rw [afterTypeDeclaration?_cons, ← step_append ends (.inr leads), leads]
              exact ends

end

/-! ## Silent markup -/

/-- What may stand after the characters that all declarations begin with: a comment or
character data up to the first mark that closes them, or a document type declaration that
has a title. -/
inductive IsDeclaration : List Char → Prop
  | comment {body : List Char} (first : ¬ "-->".toList <:+: body ++ "--".toList) :
      IsDeclaration ("--".toList ++ body ++ "-->".toList)
  | characters {body : List Char} (first : ¬ "]]>".toList <:+: body ++ "]]".toList) :
      IsDeclaration ("[CDATA[".toList ++ body ++ "]]>".toList)
  | type {word body : List Char} (named : word.map Char.toUpper = "DOCTYPE".toList)
      (titled : (body.dropWhile isSpace).head? ≠ some '>')
      (ends : afterTypeDeclaration? .before 0 body = some []) : IsDeclaration (word ++ body)

/-- Whether a declaration has a title shows before its end. -/
theorem head?_dropWhile_append {body : List Char} (present : '>' ∈ body) (more : List Char) :
    ((body ++ more).dropWhile isSpace).head? = (body.dropWhile isSpace).head? := by
  have some_ : body.dropWhile isSpace ≠ [] := fun none_ =>
    absurd (List.dropWhile_eq_nil_iff.mp none_ '>' present) (by decide)
  rw [List.dropWhile_append, if_neg (by simpa using some_), List.head?_append_of_ne_nil _ some_]

/-- A declaration stands before what is left when one is passed over. -/
theorem exists_isDeclaration {chars rest : List Char}
    (found : afterDeclaration? chars = some rest) :
    ∃ declaration, IsDeclaration declaration ∧ chars = declaration ++ rest := by
  unfold afterDeclaration? at found
  split at found
  · next comment start =>
      obtain ⟨body, first, rfl⟩ := (after?_eq_some_iff (by decide)).mp found
      refine ⟨_, .comment first, ?_⟩
      rw [← List.append_eq_of_isPrefixOf?_eq_some start]
      simp only [List.append_assoc]
  · split at found
    · next characters start =>
        obtain ⟨body, first, rfl⟩ := (after?_eq_some_iff (by decide)).mp found
        refine ⟨_, .characters first, ?_⟩
        rw [← List.append_eq_of_isPrefixOf?_eq_some start]
        simp only [List.append_assoc]
    · split at found
      · next named =>
          dsimp only at found
          split at found
          · cases found
          · next titled =>
              obtain ⟨body, ends, whole⟩ := exists_of_afterTypeDeclaration? found
              rw [whole, head?_dropWhile_append (mem_of_afterTypeDeclaration? ends)] at titled
              refine ⟨_, .type named titled ends, ?_⟩
              rw [List.append_assoc, ← whole, List.take_append_drop]
      · cases found

/-- A word that names a document type begins no other declaration. -/
theorem isPrefixOf?_eq_none_of_doctype {word : List Char}
    (named : word.map Char.toUpper = "DOCTYPE".toList) {mark : Char}
    (other : mark.toUpper ≠ 'D') (marks more : List Char) :
    (mark :: marks).isPrefixOf? (word ++ more) = none := by
  cases word with
  | nil => cases named
  | cons first others =>
      have letter : first.toUpper = 'D' := (List.cons.inj named).1
      have differs : (mark == first) = false := by
        rw [beq_eq_false_iff_ne]
        rintro rfl
        exact other letter
      simp [List.isPrefixOf?, differs]

/-- A declaration is passed over whatever comes after. -/
theorem IsDeclaration.afterDeclaration?_append {declaration : List Char}
    (kind : IsDeclaration declaration) (rest : List Char) :
    afterDeclaration? (declaration ++ rest) = some rest := by
  cases kind with
  | @comment body first =>
      have start : "--".toList.isPrefixOf? ("--".toList ++ body ++ "-->".toList ++ rest) =
          some (body ++ "-->".toList ++ rest) :=
        List.isPrefixOf?_eq_some_iff_append_eq.mpr (by simp only [List.append_assoc])
      rw [afterDeclaration?, start]
      exact (after?_eq_some_iff (by decide)).mpr ⟨body, first, rfl⟩
  | @characters body first =>
      have start : "[CDATA[".toList.isPrefixOf?
          ("[CDATA[".toList ++ body ++ "]]>".toList ++ rest) =
            some (body ++ "]]>".toList ++ rest) :=
        List.isPrefixOf?_eq_some_iff_append_eq.mpr (by simp only [List.append_assoc])
      have other : "--".toList.isPrefixOf?
          ("[CDATA[".toList ++ body ++ "]]>".toList ++ rest) = none := rfl
      rw [afterDeclaration?, other]
      dsimp only
      rw [start]
      exact (after?_eq_some_iff (by decide)).mpr ⟨body, first, rfl⟩
  | @type word body named titled ends =>
      have length : word.length = 7 := by
        rw [← List.length_map (f := Char.toUpper), named]
        rfl
      have noComment : "--".toList.isPrefixOf? (word ++ (body ++ rest)) = none :=
        isPrefixOf?_eq_none_of_doctype named (by decide) ['-'] _
      have noCharacters : "[CDATA[".toList.isPrefixOf? (word ++ (body ++ rest)) = none :=
        isPrefixOf?_eq_none_of_doctype named (by decide) "CDATA[".toList _
      rw [List.append_assoc]
      simp only [afterDeclaration?, noComment, noCharacters]
      rw [List.take_left' length, if_pos named, List.drop_left' length,
        head?_dropWhile_append (mem_of_afterTypeDeclaration? ends), if_neg titled]
      exact afterTypeDeclaration?_append ends rest

/-- The declarations that are passed over are those. -/
theorem afterDeclaration?_eq_some_iff {chars rest : List Char} :
    afterDeclaration? chars = some rest ↔
      ∃ declaration, IsDeclaration declaration ∧ chars = declaration ++ rest := by
  refine ⟨exists_isDeclaration, ?_⟩
  rintro ⟨declaration, kind, rfl⟩
  exact kind.afterDeclaration?_append rest

end FlatMessage.Xml
