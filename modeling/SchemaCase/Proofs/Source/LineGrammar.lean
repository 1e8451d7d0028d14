import SchemaCase.Proofs.Source.CodeItems
import SchemaCase.Proofs.Source.Ink

/-! The grammar of a whole line: its code, which may leave a string open where no comment follows,
and its comment. Every line has a split by the grammar, and the split of the reader is the only
one. -/

namespace SchemaCase.Source

/-- What stands behind a quote that its line does not close. A backslash may come last, with
nothing to take with it. -/
inductive OpenContents : Text → Prop
  | whole {contents : Text} (inside : StringContents contents) : OpenContents contents
  | escape {contents : Text} (inside : StringContents contents) : OpenContents (contents ++ ['\\'])

/-- What follows a quote closes it or leaves it open. -/
theorem closed_or_open (text : Text) :
    (∃ contents rest, text = contents ++ '"' :: rest ∧ StringContents contents) ∨
      OpenContents text := by
  -- A backslash takes two characters at once, so the induction is on the length.
  induction hlength : text.length using Nat.strongRecOn generalizing text with
  | ind length ih =>
      subst hlength
      cases text with
      | nil => exact .inr (.whole .nil)
      | cons c rest =>
          by_cases hquote : c = '"'
          · subst hquote
            exact .inl ⟨[], rest, rfl, .nil⟩
          by_cases hescape : c = '\\'
          · subst hescape
            cases rest with
            | nil => exact .inr (.escape .nil)
            | cons d rest =>
                have hshorter : rest.length < ('\\' :: d :: rest).length := by
                  simp only [List.length_cons]
                  omega
                rcases ih rest.length hshorter rest rfl with ⟨contents, later, rfl, hinside⟩ | hopen
                · exact .inl ⟨'\\' :: d :: contents, later, rfl, .pair hinside⟩
                · cases hopen with
                  | whole hinside => exact .inr (.whole (.pair hinside))
                  | @escape contents hinside =>
                      have hpair : StringContents ('\\' :: d :: contents) := .pair hinside
                      exact .inr (.escape hpair)
          · rcases ih rest.length (by simp) rest rfl with ⟨contents, later, rfl, hinside⟩ | hopen
            · exact .inl ⟨c :: contents, later, rfl, .char hquote hescape hinside⟩
            · cases hopen with
              | whole hinside => exact .inr (.whole (.char hquote hescape hinside))
              | @escape contents hinside =>
                  have hchar : StringContents (c :: contents) := .char hquote hescape hinside
                  exact .inr (.escape hchar)

theorem OpenContents.read {contents : Text} (h : OpenContents contents)
    (hfeed : '\n' ∉ contents) :
    cellsFrom .string contents = stringCells contents ∧ modeAfter .string contents ≠ .comment := by
  cases h with
  | whole inside =>
      obtain ⟨hcells, hmode⟩ := inside.read hfeed []
      rw [List.append_nil] at hcells hmode
      exact ⟨by simpa using hcells, by rw [hmode]; decide⟩
  | escape inside =>
      have hinside : '\n' ∉ _ := fun hmem => hfeed (List.mem_append_left _ hmem)
      obtain ⟨hcells, hmode⟩ := inside.read hinside ['\\']
      rw [hcells, hmode, stringCells, stringCells, List.map_append]
      exact ⟨rfl, by decide⟩

/-- A line cut into code and comment. The code holds whole strings and single characters that open
no comment; only where no comment follows, a string may be left open at its end. -/
structure LineSplit (line code comment : Text) : Prop where
  append : code ++ comment = line
  opens : comment = [] ∨ ['/', '/'] <+: comment
  items : ∃ items unclosed, code = items ++ unclosed ∧ CodeItems (unclosed ++ comment) items ∧
    (unclosed = [] ∨ comment = [] ∧ ∃ contents, unclosed = '"' :: contents ∧ OpenContents contents)

theorem LineSplit.char {c : Char} {line code comment : Text} (hquote : c ≠ '"')
    (hopens : ¬['/', '/'] <+: c :: line) (h : LineSplit line code comment) :
    LineSplit (c :: line) (c :: code) comment := by
  obtain ⟨rfl, hcomment, items, unclosed, rfl, hitems, hunclosed⟩ := h
  rw [List.append_assoc] at hopens
  exact ⟨rfl, hcomment, c :: items, unclosed, rfl, .char hquote hopens hitems, hunclosed⟩

theorem LineSplit.string {contents line code comment : Text} (hinside : StringContents contents)
    (h : LineSplit line code comment) :
    LineSplit ('"' :: contents ++ '"' :: line) ('"' :: contents ++ '"' :: code) comment := by
  obtain ⟨rfl, hcomment, items, unclosed, rfl, hitems, hunclosed⟩ := h
  refine ⟨by simp, hcomment, '"' :: contents ++ '"' :: items, unclosed, by simp, ?_, hunclosed⟩
  exact .string hinside hitems

theorem exists_lineSplit (line : Text) : ∃ code comment, LineSplit line code comment := by
  induction hlength : line.length using Nat.strongRecOn generalizing line with
  | ind length ih =>
      subst hlength
      by_cases hopens : ['/', '/'] <+: line
      · exact ⟨[], line, rfl, .inr hopens, [], [], rfl, .nil, .inl rfl⟩
      cases line with
      | nil => exact ⟨[], [], rfl, .inl rfl, [], [], rfl, .nil, .inl rfl⟩
      | cons c rest =>
          by_cases hquote : c = '"'
          · subst hquote
            rcases closed_or_open rest with ⟨contents, later, rfl, hinside⟩ | hopen
            · have hshorter : later.length < ('"' :: (contents ++ '"' :: later)).length := by
                simp only [List.length_cons, List.length_append]
                omega
              obtain ⟨code, comment, hsplit⟩ := ih later.length hshorter later rfl
              exact ⟨_, comment, hsplit.string hinside⟩
            · exact ⟨'"' :: rest, [], List.append_nil _, .inl rfl, [], '"' :: rest, rfl, .nil,
                .inr ⟨rfl, rest, rfl, hopen⟩⟩
          · obtain ⟨code, comment, hsplit⟩ := ih rest.length (by simp) rest rfl
            exact ⟨c :: code, comment, hsplit.char hquote hopens⟩

/-- A comment lasts to the end of its line, so a line that does not end in one has none. -/
theorem noComment_of_modeAfter {text : Text} (hfeed : '\n' ∉ text)
    (h : modeAfter .code text ≠ .comment) : NoComment .code text := by
  have hcode : Mode.code ≠ .comment := by decide
  rcases comment_split hcode text with ⟨hnone, -⟩ | ⟨code, comment, rfl, hsplit⟩
  · exact hnone
  · have hcomment : '\n' ∉ comment := fun hmem => hfeed (List.mem_append_right _ hmem)
    rw [modeAfter_append .code hsplit.joins, hsplit.code_mode] at h
    exact absurd (cells_comment hsplit.opens hcomment).2 h

theorem LineSplit.codeAndComment {line code comment : Text} (h : LineSplit line code comment)
    (hfeed : '\n' ∉ line) : codeAndComment line = (code, comment) := by
  obtain ⟨rfl, hcomment, items, unclosed, rfl, hitems, hunclosed⟩ := h
  simp only [List.mem_append, not_or] at hfeed
  obtain ⟨⟨hitemsFeed, hunclosedFeed⟩, -⟩ := hfeed
  obtain ⟨hmode, hjoins⟩ := hitems.closed hitemsFeed
  rcases hunclosed with rfl | ⟨rfl, contents, rfl, hopen⟩
  · have hnone : NoComment .code items := noComment_of_modeAfter hitemsFeed (by simp [hmode])
    rw [List.nil_append] at hjoins
    rw [List.append_nil]
    rcases hcomment with rfl | hopens
    · rw [List.append_nil, hnone.codeAndComment]
    · have hsplit : CommentSplit .code items comment := ⟨hopens, hnone, hmode, hjoins⟩
      exact hsplit.codeAndComment
  · rw [List.append_nil] at hjoins ⊢
    have hcontents : '\n' ∉ contents := fun hmem => hunclosedFeed (List.mem_cons_of_mem _ hmem)
    have hafter : modeAfter .code (items ++ '"' :: contents) ≠ .comment := by
      rw [modeAfter_append .code hjoins, hmode]
      exact (hopen.read hcontents).2
    have hline : '\n' ∉ items ++ '"' :: contents := by
      simp only [List.mem_append, not_or]
      exact ⟨hitemsFeed, hunclosedFeed⟩
    rw [(noComment_of_modeAfter hline hafter).codeAndComment]

/-- A line is cut in the one way that the grammar allows. -/
theorem codeAndComment_eq_iff_lineSplit {line : Text} (hfeed : '\n' ∉ line)
    (code comment : Text) :
    codeAndComment line = (code, comment) ↔ LineSplit line code comment := by
  constructor
  · intro hcut
    obtain ⟨otherCode, otherComment, hsplit⟩ := exists_lineSplit line
    rw [hsplit.codeAndComment hfeed, Prod.mk.injEq] at hcut
    obtain ⟨rfl, rfl⟩ := hcut
    exact hsplit
  · intro hsplit
    exact hsplit.codeAndComment hfeed

/-- The first of three slashes opens the comment; slashes in a string open none, also where the
string is not closed. -/
theorem codeAndComment_eq_iff_lineSplit_slashes :
    let code := "a \"\\\" //\" /b ".toList
    let comment := "///\"c".toList
    let unclosed := "x \"// \\".toList
    ('\n' ∉ code ++ comment ∧ LineSplit (code ++ comment) code comment ∧
        ¬LineSplit (code ++ comment) (code ++ ['/']) (comment.drop 1)) ∧
      '\n' ∉ unclosed ∧ LineSplit unclosed unclosed [] := by
  intro code comment unclosed
  have hfeed : '\n' ∉ code ++ comment := by decide
  have hunclosed : '\n' ∉ unclosed := by decide
  have hcut : codeAndComment (code ++ comment) = (code, comment) := by decide
  refine ⟨⟨hfeed, (codeAndComment_eq_iff_lineSplit hfeed code comment).mp hcut, ?_⟩, hunclosed,
    (codeAndComment_eq_iff_lineSplit hunclosed unclosed []).mp (by decide)⟩
  intro hlater
  rw [← codeAndComment_eq_iff_lineSplit hfeed, hcut] at hlater
  exact absurd hlater (by decide)

end SchemaCase.Source
