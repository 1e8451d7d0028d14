import SchemaCase.Proofs.Schema.MapCalls
import SchemaCase.Proofs.Source.LineGrammar
import SchemaCase.Proofs.Source.Mask

/-! String arguments of calls. A call is found in the masked text and its argument is read from the
text itself; both tell the same place for the end of a string, because both follow the grammar of
string contents. -/

namespace SchemaCase

open Source

namespace Source

theorem stringCells_append_inj {contents other : Text} {cell : Cell} {back rest : List Cell}
    (hcell : cell.region = .code)
    (h : stringCells contents ++ cell :: back = stringCells other ++ cell :: rest) :
    contents = other := by
  induction contents generalizing other with
  | nil =>
      cases other with
      | nil => rfl
      | cons d other =>
          obtain ⟨rfl, -⟩ := List.cons.inj h
          cases hcell
  | cons c contents ih =>
      cases other with
      | nil =>
          obtain ⟨rfl, -⟩ := List.cons.inj h
          cases hcell
      | cons d other =>
          obtain ⟨hhead, htail⟩ := List.cons.inj h
          rw [(Cell.mk.inj hhead).1, ih htail]

theorem exists_contents_of_cells {text contents : Text} {back : List Cell} (hfeed : '\n' ∉ text)
    (h : cellsFrom .string text = stringCells contents ++ ⟨'"', .code⟩ :: back) :
    ∃ rest, text = contents ++ '"' :: rest ∧ StringContents contents := by
  rcases closed_or_open text with ⟨inside, rest, rfl, hinside⟩ | hopen
  · have hinsideFeed : '\n' ∉ inside := fun hmem => hfeed (List.mem_append_left _ hmem)
    have hread : stringCells inside ++ ⟨'"', .code⟩ :: cells rest =
        stringCells contents ++ ⟨'"', .code⟩ :: back :=
      (hinside.read hinsideFeed ('"' :: rest)).1.symm.trans h
    obtain rfl := stringCells_append_inj rfl hread
    exact ⟨rest, rfl, hinside⟩
  · rw [(hopen.read hfeed).1] at h
    have hmem : (⟨'"', .code⟩ : Cell) ∈ stringCells text := by simp [h]
    obtain ⟨c, -, hcell⟩ := List.mem_map.mp hmem
    cases hcell

/-- Behind a character of the code that opens no string, code goes on. -/
theorem Mode.step_code_of_region {mode : Mode} {c : Char} {next : Option Char} (hquote : c ≠ '"')
    (h : (mode.step c next).1 = .code) : (mode.step c next).2 = .code := by
  by_cases hfeed : c = '\n'
  · subst hfeed
    rfl
  cases mode with
  | comment =>
      rw [Mode.step_comment hfeed] at h
      cases h
  | escape =>
      rw [Mode.step_escape hfeed] at h
      cases h
  | string =>
      by_cases hescape : c = '\\'
      · subst hescape
        cases h
      · rw [Mode.step_string ⟨hquote, hescape, hfeed⟩] at h
        cases h
  | code =>
      by_cases hopens : c = '/' ∧ next = some '/'
      · obtain ⟨rfl, rfl⟩ := hopens
        cases h
      · rw [Mode.step_code hquote fun hslash hnext => hopens ⟨hslash, hnext⟩]

theorem cells_behind {text : Text} {front back : List Cell} {cell : Cell}
    (hcells : cells text = front ++ cell :: back) (hregion : cell.region = .code)
    (hquote : cell.char ≠ '"') (hslash : cell.char ≠ '/') : back = cells (textOf back) := by
  obtain ⟨-, hrest⟩ := cellsFrom_eq_append hcells (.cons (textOf front) hslash (textOf back))
  rw [textOf_cons, cellsFrom_cons] at hrest
  obtain ⟨hcell, hback⟩ := List.cons.inj hrest
  rw [hcell] at hregion
  rwa [Mode.step_code_of_region hquote hregion] at hback

end Source

namespace MapCall

/-- What may stand between the parenthesis of a call and its argument: blanks, and the label
`name:` among them. -/
inductive IsLabel : Text → Prop
  | blanks {blanks : Text} (blank : ∀ c ∈ blanks, Text.isBlank c) : IsLabel blanks
  | name {before between behind : Text} (before_blank : ∀ c ∈ before, Text.isBlank c)
      (between_blank : ∀ c ∈ between, Text.isBlank c)
      (behind_blank : ∀ c ∈ behind, Text.isBlank c) :
      IsLabel (before ++ "name".toList ++ between ++ ':' :: behind)

theorem trimStart_blanks {blanks rest : Text} {c : Char} (h : ∀ c ∈ blanks, Text.isBlank c)
    (hc : Text.isBlank c = false) : Text.trimStart (blanks ++ c :: rest) = c :: rest := by
  apply Text.trimStart_run h
  rintro d ⟨⟩
  exact hc

theorem IsLabel.literalArgument? {label : Text} (h : IsLabel label) (rest : Text) :
    literalArgument? (label ++ '"' :: rest) = literal? rest := by
  have hquote : skipLabel ('"' :: rest) = '"' :: rest := rfl
  cases h with
  | blanks blank =>
      rw [MapCall.literalArgument?, trimStart_blanks blank (by decide), hquote]
      rfl
  | @name before between behind before_blank between_blank behind_blank =>
      have htext : before ++ "name".toList ++ between ++ ':' :: behind ++ '"' :: rest =
          before ++ 'n' :: 'a' :: 'm' :: 'e' :: (between ++ ':' :: (behind ++ '"' :: rest)) := by
        simp
      have hafter : Text.after? "name".toList
          ('n' :: 'a' :: 'm' :: 'e' :: (between ++ ':' :: (behind ++ '"' :: rest))) =
            some (between ++ ':' :: (behind ++ '"' :: rest)) := rfl
      have hlabel :
          skipLabel ('n' :: 'a' :: 'm' :: 'e' :: (between ++ ':' :: (behind ++ '"' :: rest))) =
            '"' :: rest := by
        rw [skipLabel, hafter]
        dsimp only
        rw [trimStart_blanks between_blank (by decide)]
        exact trimStart_blanks behind_blank (by decide)
      rw [MapCall.literalArgument?, htext, trimStart_blanks before_blank (by decide), hlabel]
      rfl

theorem IsLabel.plain {label : Text} (h : IsLabel label) : Plain label := by
  cases h with
  | blanks blank => exact plain_of_isBlank blank
  | name before_blank between_blank behind_blank =>
      have hname : Plain "name".toList := by decide
      have hcolon : Plain [':'] := by decide
      exact (((plain_of_isBlank before_blank).append hname).append
        (plain_of_isBlank between_blank)).append (hcolon.append (plain_of_isBlank behind_blank))

theorem callAt?_eq_some_iff {word : Text} {cells : List Cell} {argument : Text} :
    callAt? word cells = some argument ↔ ∃ written blanks paren back,
      cells = written ++ (blanks ++ paren :: back) ∧ written.map Cell.visible = word ∧
        (∀ cell ∈ blanks, Text.isBlank cell.visible) ∧ paren.visible = '(' ∧
        textOf back = argument := by
  constructor
  · intro h
    unfold callAt? at h
    split at h
    · next hword =>
        split at h
        · cases h
        · next paren back hdrop =>
            split at h
            · next hparen =>
                refine ⟨cells.take word.length,
                  (cells.drop word.length).takeWhile fun cell => Text.isBlank cell.visible,
                  paren, back, ?_, hword, ?_, beq_iff_eq.mp hparen, Option.some.inj h⟩
                · rw [← hdrop, List.takeWhile_append_dropWhile, List.take_append_drop]
                · exact List.all_eq_true.mp List.all_takeWhile
            · cases h
    · cases h
  · rintro ⟨written, blanks, paren, back, rfl, rfl, hblanks, hparen, rfl⟩
    have hlength : written.length = (written.map Cell.visible).length := by simp
    have hstop : Text.isBlank paren.visible = false := by
      rw [hparen]
      decide
    unfold callAt?
    rw [List.take_left' hlength, if_pos rfl, List.drop_left' hlength,
      List.dropWhile_append_of_pos hblanks, List.dropWhile_cons_of_neg (by simp [hstop])]
    simp [hparen]

/-- The cells in front of a call are passed over if no call starts at any of them. -/
theorem findCall?_eq_some {admits : Option Char → Bool} {word : Text} {previous : Option Char}
    {front rest : List Cell} {argument : Text} (hadmits : admits (lastVisible previous front))
    (hcall : callAt? word rest = some argument) (hrest : rest ≠ [])
    (hfirst : ∀ passed behind, front = passed ++ behind → behind ≠ [] →
      admits (lastVisible previous passed) → callAt? word (behind ++ rest) = none) :
    findCall? admits word previous (front ++ rest) = some argument := by
  induction front generalizing previous with
  | nil =>
      obtain ⟨cell, rest, rfl⟩ := List.exists_cons_of_ne_nil hrest
      have hprevious : admits previous := hadmits
      rw [List.nil_append, findCall?, if_pos hprevious, hcall]
  | cons cell front ih =>
      have hnone : (if admits previous then callAt? word (cell :: (front ++ rest)) else none) =
          none := by
        split
        · next hprevious => exact hfirst [] (cell :: front) rfl (by simp) hprevious
        · rfl
      rw [List.cons_append, findCall?, hnone]
      apply ih
      · rwa [lastVisible_cons] at hadmits
      · intro passed behind hsplit hbehind hpassed
        apply hfirst (cell :: passed) behind (by rw [hsplit]; rfl) hbehind
        rwa [lastVisible_cons]

/-- A call in a masked text: `word` at a place that `admits` it, blanks, and a parenthesis. -/
structure IsCall (admits : Option Char → Bool) (word shown front blanks behind : Text) : Prop where
  eq_append : shown = front ++ (word ++ (blanks ++ '(' :: behind))
  admitted : admits front.getLast?
  blank : ∀ c ∈ blanks, Text.isBlank c

structure IsFirstCall (admits : Option Char → Bool) (word shown front blanks behind : Text) : Prop
    extends IsCall admits word shown front blanks behind where
  first : ∀ otherFront otherBlanks otherBehind,
    IsCall admits word shown otherFront otherBlanks otherBehind → front.length ≤ otherFront.length

theorem IsCall.isFirst {admits : Option Char → Bool} {word shown front blanks behind : Text}
    {sign : Char} (h : IsCall admits (sign :: word) shown front blanks behind)
    (hsign : sign ∉ front) :
    IsFirstCall admits (sign :: word) shown front blanks behind := by
  refine ⟨h, ?_⟩
  intro otherFront otherBlanks otherBehind hother
  by_contra hlonger
  rw [Nat.not_le] at hlonger
  apply hsign
  have hprefix : otherFront ++ [sign] <+: front := by
    apply List.prefix_of_prefix_length_le _ (h.eq_append ▸ List.prefix_append front _)
    · rw [List.length_append]
      exact hlonger
    · rw [hother.eq_append]
      exact ⟨_, List.append_assoc _ _ _⟩
  exact hprefix.subset (by simp)

theorem lastVisible_none (cells : List Cell) :
    lastVisible none cells = (cells.map Cell.visible).getLast? := by
  simp [lastVisible]

/-- The search finds the first call, and the text behind its parenthesis is read as code. -/
theorem IsFirstCall.findCall? {admits : Option Char → Bool}
    {word fragment front blanks behind : Text}
    (h : IsFirstCall admits word (mask fragment) front blanks behind) :
    let offset := (front ++ word ++ blanks ++ ['(']).length
    findCall? admits word none (cells fragment) = some (fragment.drop offset) ∧
      (cells fragment).drop offset = cells (fragment.drop offset) := by
  intro offset
  obtain ⟨frontCells, call, hcells, rfl, hcall⟩ := List.map_eq_append_iff.mp h.eq_append
  obtain ⟨written, opening, rfl, rfl, hopening⟩ := List.map_eq_append_iff.mp hcall
  obtain ⟨blankCells, tail, rfl, rfl, htail⟩ := List.map_eq_append_iff.mp hopening
  obtain ⟨paren, back, rfl, hparen, rfl⟩ := List.map_eq_cons_iff.mp htail
  obtain ⟨hregion, hchar⟩ := (paren.visible_eq_iff (by decide)).mp hparen
  have hwhole : cells fragment = (frontCells ++ written ++ blankCells) ++ paren :: back := by
    simp [hcells]
  have hdropCells : (cells fragment).drop offset = back := by
    rw [hwhole, ← List.singleton_append, ← List.append_assoc]
    exact List.drop_left' (by simp [offset, Nat.add_assoc])
  have hdrop : fragment.drop offset = textOf back := by
    rw [← hdropCells, textOf, List.map_drop, ← textOf, textOf_cells]
  have hback : back = cells (textOf back) :=
    cells_behind hwhole hregion (by rw [hchar]; decide) (by rw [hchar]; decide)
  refine ⟨?_, by rw [hdropCells, hdrop]; exact hback⟩
  have hblank : ∀ cell ∈ blankCells, Text.isBlank cell.visible :=
    fun cell hcell => h.blank _ (List.mem_map_of_mem hcell)
  rw [hcells, hdrop]
  apply findCall?_eq_some
  · rw [lastVisible_none]
    exact h.admitted
  · exact callAt?_eq_some_iff.mpr ⟨written, blankCells, paren, back, rfl, rfl, hblank, hparen, rfl⟩
  · simp
  · intro passed rest hsplit hrest hpassed
    -- A call that starts earlier would be a match in front of the first one.
    by_contra hsome
    obtain ⟨argument, hargument⟩ := Option.ne_none_iff_exists'.mp hsome
    obtain ⟨otherWritten, otherBlanks, otherParen, otherBack, hcut, hword, hotherBlank, hotherParen,
      -⟩ := callAt?_eq_some_iff.mp hargument
    have hother := h.first (passed.map Cell.visible) (otherBlanks.map Cell.visible)
      (otherBack.map Cell.visible) ⟨?_, ?_, ?_⟩
    · rw [hsplit] at hother
      have hlength := List.length_pos_iff.mpr hrest
      simp only [List.map_append, List.length_append, List.length_map] at hother
      omega
    · rw [mask, hcells, hsplit, List.append_assoc, hcut]
      simp [hword, hotherParen]
    · rwa [← lastVisible_none]
    · intro c hc
      obtain ⟨cell, hcell, rfl⟩ := List.mem_map.mp hc
      exact hotherBlank cell hcell

/-- At `offset`, behind a label, a quote opens a string, and the reader of the text closes it behind
`contents`. -/
structure StringArgument (fragment : Text) (offset : Nat) (label contents : Text) : Prop where
  isLabel : IsLabel label
  quote : label ++ ['"'] <+: fragment.drop offset
  closed : ∃ back, (cells fragment).drop (offset + label.length + 1) =
    stringCells contents ++ ⟨'"', .code⟩ :: back

theorem StringArgument.argument {fragment label contents : Text} {offset : Nat}
    (h : StringArgument fragment offset label contents) (hfeed : '\n' ∉ fragment)
    (hcode : (cells fragment).drop offset = cells (fragment.drop offset)) :
    argument (fragment.drop offset) = contents := by
  obtain ⟨hlabel, ⟨rest, hquote⟩, back, hclosed⟩ := h
  rw [List.append_assoc, List.singleton_append] at hquote
  have hrestFeed : '\n' ∉ rest := by
    intro hmem
    apply hfeed
    apply List.mem_of_mem_drop
    rw [← hquote]
    simp [hmem]
  have hstring : cellsFrom .string rest = stringCells contents ++ ⟨'"', .code⟩ :: back := by
    have hcells : cells (label ++ '"' :: rest) =
        (codeCells label ++ [⟨'"', .code⟩]) ++ cellsFrom .string rest := by
      rw [hlabel.plain.cells_append, List.append_assoc]
      rfl
    rw [Nat.add_assoc, ← List.drop_drop, hcode, ← hquote, hcells,
      List.drop_left' (by simp [codeCells])] at hclosed
    exact hclosed
  obtain ⟨behind, rfl, hinside⟩ := exists_contents_of_cells hrestFeed hstring
  have hcontents : '\n' ∉ contents := fun hmem => hrestFeed (List.mem_append_left _ hmem)
  rw [MapCall.argument, ← hquote, hlabel.literalArgument?, literal?_contents hinside hcontents]
  rfl

/-- A call whose argument is a string that its line closes records exactly what the reader of the
line finds between the two quotes. -/
theorem map_literal_eq_contents {fragment front blanks behind label contents : Text}
    (hfeed : '\n' ∉ fragment) :
    (IsFirstCall standsAlone "@map".toList (mask fragment) front blanks behind →
        StringArgument fragment (front ++ "@map".toList ++ blanks ++ ['(']).length label contents →
          inline? fragment = some contents) ∧
      (IsFirstCall (fun _ => true) "@@map".toList (mask fragment) front blanks behind →
        StringArgument fragment (front ++ "@@map".toList ++ blanks ++ ['(']).length label contents →
          ofBlock? fragment = some contents) := by
  constructor
  · intro hcall hargument
    obtain ⟨hfind, hcode⟩ := hcall.findCall?
    calc inline? fragment
        = (findCall? standsAlone "@map".toList none (cells fragment)).map argument := rfl
      _ = some contents := by rw [hfind, Option.map_some, hargument.argument hfeed hcode]
  · intro hcall hargument
    obtain ⟨hfind, hcode⟩ := hcall.findCall?
    rw [ofBlock?, hfind, Option.map_some, hargument.argument hfeed hcode]

/-- An escaped quote, a parenthesis and two slashes belong to the contents, and a call in a string
is none. -/
theorem map_literal_eq_contents_escaped :
    let fragment := "Json \"@map(\" @map ( name : \"a\\\"b) // \\\\\" ) // \"".toList
    let contents := "a\\\"b) // \\\\".toList
    let line := "  @@map(\"\\\\\")".toList
    ('\n' ∉ fragment ∧
        (∃ front blanks behind label,
          IsFirstCall standsAlone "@map".toList (mask fragment) front blanks behind ∧
            StringArgument fragment (front ++ "@map".toList ++ blanks ++ ['(']).length label
              contents) ∧
        inline? fragment = some contents) ∧
      '\n' ∉ line ∧
        (∃ front blanks behind label,
          IsFirstCall (fun _ => true) "@@map".toList (mask line) front blanks behind ∧
            StringArgument line (front ++ "@@map".toList ++ blanks ++ ['(']).length label
              "\\\\".toList) ∧
        ofBlock? line = some "\\\\".toList := by
  intro fragment contents line
  have hfeed : '\n' ∉ fragment := by decide
  have hline : '\n' ∉ line := by decide
  have hblank : ∀ c ∈ " ".toList, Text.isBlank c := List.all_eq_true.mp (by decide)
  have hcall : IsFirstCall standsAlone "@map".toList (mask fragment) "Json \"     \" ".toList
      " ".toList ((mask fragment).drop 19) :=
    IsCall.isFirst ⟨by decide, by decide +kernel, hblank⟩ (by decide)
  have hargument : StringArgument fragment 19 " name : ".toList contents :=
    ⟨.name hblank hblank hblank, by decide, (cells fragment).drop 40, by decide⟩
  have hblockCall : IsFirstCall (fun _ => true) "@@map".toList (mask line) "  ".toList []
      ((mask line).drop 8) :=
    IsCall.isFirst ⟨by decide, rfl, by simp⟩ (by decide)
  have hblockArgument : StringArgument line 8 [] "\\\\".toList :=
    ⟨.blanks (by simp), by decide, (cells line).drop 12, by decide⟩
  exact ⟨⟨hfeed, ⟨_, _, _, _, hcall, hargument⟩,
      (map_literal_eq_contents hfeed).1 hcall hargument⟩,
    hline, ⟨_, _, _, _, hblockCall, hblockArgument⟩,
    (map_literal_eq_contents hline).2 hblockCall hblockArgument⟩

end MapCall

end SchemaCase
