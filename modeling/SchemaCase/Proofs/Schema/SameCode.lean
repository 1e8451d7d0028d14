import SchemaCase.Proofs.Schema.Grammar
import SchemaCase.Proofs.Source.Mask

/-! Texts with the same mask are read alike: both are refused at the same place, or both have the
same blocks, and the lines of these show the same code. -/

namespace SchemaCase

open Source

theorem Line.sameCode_ofTerminated {piece other : Text} (h : mask piece = mask other) :
    SameCode (ofTerminated piece).text (ofTerminated other).text := by
  -- A carriage return at the end is shown as it is or as a blank, so it is trimmed.
  have htrim : ∀ text : Text,
      Text.trimEnd (mask (ofTerminated text).text) = Text.trimEnd (mask text) := by
    intro text
    unfold ofTerminated
    split
    · next hlast =>
        obtain ⟨front, rfl⟩ := List.getLast?_eq_some_iff.mp hlast
        have hcells : mask (front ++ ['\r']) = mask front ++
            (cellsFrom (modeAfter .code front) ['\r']).map Cell.visible := by
          rw [mask, cells, cellsFrom_append .code (.cons front (by decide) []), List.map_append]
          rfl
        have hblank : ∀ c ∈ (cellsFrom (modeAfter .code front) ['\r']).map Cell.visible,
            Text.isBlank c := by
          intro c hc
          obtain ⟨cell, hcell, rfl⟩ := List.mem_map.mp hc
          exact isBlank_of_mem_cellsFrom (List.all_eq_true.mp (by decide)) cell hcell
        rw [List.dropLast_concat, hcells, Text.trimEnd_append_blanks hblank]
    · rfl
  rw [SameCode, htrim, htrim, h]

theorem Line.sameCode_ofBody {body other : Text} (h : mask body = mask other) :
    List.Forall₂ (fun line line' : Line =>
        '\n' ∉ line.text ∧ '\n' ∉ line'.text ∧ SameCode line.text line'.text)
      (ofBody body) (ofBody other) := by
  induction body using body_induction generalizing other with
  | last text hfeed =>
      have hother : '\n' ∉ other := by rwa [← lineFeed_mem_mask, ← h, lineFeed_mem_mask]
      rw [ofBody_of_not_mem hfeed, ofBody_of_not_mem hother]
      exact .cons ⟨hfeed, hother, congrArg Text.trimEnd h⟩ .nil
  | line front back hfront ih =>
      rw [mask_lineFeed] at h
      obtain ⟨front', back', rfl, hfronts, hbacks⟩ := exists_lineFeed_of_mask h.symm
      have hfront' : '\n' ∉ front' := by rwa [← lineFeed_mem_mask, hfronts, lineFeed_mem_mask]
      rw [ofBody_append hfront, ofBody_append hfront']
      exact .cons ⟨(ofTerminated_isTerminated hfront).text,
        (ofTerminated_isTerminated hfront').text, sameCode_ofTerminated hfronts.symm⟩
          (ih hbacks.symm)

theorem Header.read?_sameCode {text other : Text} {header : Header} {rest : List Cell}
    (h : mask text = mask other) (hread : Header.read? (cells text) = some (header, rest)) :
    ∃ behind, Header.read? (cells other) = some (header, cells behind) ∧
      rest = cells (textOf rest) ∧ mask (textOf rest) = mask behind := by
  obtain ⟨hheader, htext, hrest⟩ := Header.read?_cells hread
  rw [htext, hheader.plain_render.mask_append] at h
  obtain ⟨opening, tail, hcells, hopening, htail⟩ := List.map_eq_append_iff.mp h.symm
  obtain ⟨rfl, hbehind⟩ := hheader.eq_codeCells hcells hopening
  refine ⟨textOf tail, ?_, hrest, ?_⟩
  · rw [hcells, ← hbehind, Header.read?_codeCells hheader]
  · rw [← htail, mask, ← hbehind]

theorem splitBody_sameCode (depth : Nat) {cells others : List Cell}
    (h : cells.map Cell.visible = others.map Cell.visible) :
    splitBody depth cells = none ∧ splitBody depth others = none ∨
      ∃ body tail body' tail', splitBody depth cells = some (body, tail) ∧
        splitBody depth others = some (body', tail') ∧
        body.map Cell.visible = body'.map Cell.visible ∧
        tail.map Cell.visible = tail'.map Cell.visible := by
  induction cells generalizing depth others with
  | nil =>
      obtain rfl := List.map_eq_nil_iff.mp h.symm
      exact .inl ⟨rfl, rfl⟩
  | cons cell rest ih =>
      obtain ⟨cell', rest', rfl, hcell, hrest⟩ := List.map_eq_cons_iff.mp h.symm
      -- The cell itself goes to the body, whatever the rest of the cells is split into.
      have hinner : ∀ next,
          ((splitBody next rest).map fun parts => (cell :: parts.1, parts.2)) = none ∧
            ((splitBody next rest').map fun parts => (cell' :: parts.1, parts.2)) = none ∨
          ∃ body tail body' tail',
            ((splitBody next rest).map fun parts => (cell :: parts.1, parts.2)) =
              some (body, tail) ∧
            ((splitBody next rest').map fun parts => (cell' :: parts.1, parts.2)) =
              some (body', tail') ∧
            body.map Cell.visible = body'.map Cell.visible ∧
            tail.map Cell.visible = tail'.map Cell.visible := by
        intro next
        rcases ih next hrest.symm with ⟨hnone, hnone'⟩ |
          ⟨body, tail, body', tail', hsome, hsome', hbody, htail⟩
        · exact .inl (by simp [hnone, hnone'])
        · exact .inr ⟨cell :: body, tail, cell' :: body', tail', by simp [hsome],
            by simp [hsome'], by simp [hcell, hbody], htail⟩
      simp only [splitBody, hcell]
      split
      · exact hinner (depth + 1)
      · split
        · cases depth with
          | zero => exact .inr ⟨[], rest, [], rest', rfl, rfl, rfl, hrest.symm⟩
          | succ depth => exact hinner depth
        · exact hinner depth

theorem Header.read?_isSome_sameCode {text other : Text} (h : mask text = mask other) :
    (Header.read? (cells text)).isSome = (Header.read? (cells other)).isSome := by
  have hforward : ∀ {text other : Text}, mask text = mask other →
      (Header.read? (cells text)).isSome → (Header.read? (cells other)).isSome := by
    intro text other h hsome
    obtain ⟨⟨header, rest⟩, hread⟩ := Option.isSome_iff_exists.mp hsome
    obtain ⟨behind, hother, -⟩ := Header.read?_sameCode h hread
    rw [hother]
    rfl
  rw [Bool.eq_iff_iff]
  exact ⟨hforward h, hforward h.symm⟩

structure SameStart (before other : Text) : Prop where
  length : before.length = other.length
  startsLine : StartsLine before ↔ StartsLine other

theorem ScannedBehind.visible {before : Text} {cell : Cell} {rest : List Cell}
    (h : ScannedBehind before (cell :: rest)) (hstart : StartsLine (before ++ [cell.char])) :
    cell.visible = cell.char ∧ cell.char ≠ ' ' := by
  obtain ⟨mode, text, hcells, hmode⟩ := h
  cases text with
  | nil => cases hcells
  | cons c text =>
      rw [cellsFrom_cons] at hcells
      obtain ⟨rfl, -⟩ := List.cons.inj hcells
      rcases (startsLine_concat before c).mp hstart with rfl | ⟨rfl, rfl⟩
      · exact ⟨rfl, show '\n' ≠ ' ' by decide⟩
      · rw [hmode (.inl rfl), Mode.step_code_plain (by decide) (by decide)]
        exact ⟨rfl, by decide⟩

theorem SameStart.concat {before other : Text} {cell cell' : Cell} {rest rest' : List Cell}
    (h : SameStart before other) (hscanned : ScannedBehind before (cell :: rest))
    (hscanned' : ScannedBehind other (cell' :: rest')) (hvisible : cell.visible = cell'.visible) :
    SameStart (before ++ [cell.char]) (other ++ [cell'.char]) := by
  have hforward : ∀ {before other : Text} {cell cell' : Cell} {rest : List Cell},
      before.length = other.length → ScannedBehind before (cell :: rest) →
      cell.visible = cell'.visible → StartsLine (before ++ [cell.char]) →
      StartsLine (other ++ [cell'.char]) := by
    intro before other cell cell' rest hlength hscanned hvisible hline
    obtain ⟨hchar, hblank⟩ := hscanned.visible hline
    have hchar' := ((cell'.visible_eq_iff hblank).mp (hvisible.symm.trans hchar)).2
    rw [hchar', startsLine_concat]
    refine ((startsLine_concat before cell.char).mp hline).imp_right fun ⟨hnil, hmark⟩ => ?_
    exact ⟨List.length_eq_zero_iff.mp (by rw [← hlength, hnil]; rfl), hmark⟩
  refine ⟨by simp [h.length], hforward h.length hscanned hvisible, ?_⟩
  exact hforward h.length.symm hscanned' hvisible.symm

theorem splitGap_sameCode {before other : Text} {cells others : List Cell}
    (hstart : SameStart before other) (hscanned : ScannedBehind before cells)
    (hscanned' : ScannedBehind other others)
    (h : cells.map Cell.visible = others.map Cell.visible) :
    ∃ gap tail gap' tail',
      splitGap before.length (decide (StartsLine before)) cells = (gap, tail) ∧
      splitGap other.length (decide (StartsLine other)) others = (gap', tail') ∧
      gap.map Cell.visible = gap'.map Cell.visible ∧
      tail.map Cell.visible = tail'.map Cell.visible := by
  induction cells generalizing before other others with
  | nil =>
      obtain rfl := List.map_eq_nil_iff.mp h.symm
      exact ⟨[], [], [], [], rfl, rfl, rfl, rfl⟩
  | cons cell rest ih =>
      obtain ⟨cell', rest', rfl, hcell, hrest⟩ := List.map_eq_cons_iff.mp h.symm
      have hopens : (decide (StartsLine before) && (Header.read? (cell :: rest)).isSome) =
          (decide (StartsLine other) && (Header.read? (cell' :: rest')).isSome) := by
        by_cases hline : StartsLine before
        · have hline' := hstart.startsLine.mp hline
          have hmask : mask (textOf (cell :: rest)) = mask (textOf (cell' :: rest')) := by
            rw [mask, mask, ← hscanned.eq_cells hline, ← hscanned'.eq_cells hline', h]
          have hread := Header.read?_isSome_sameCode hmask
          rw [← hscanned.eq_cells hline, ← hscanned'.eq_cells hline'] at hread
          rw [hread, decide_eq_true hline, decide_eq_true hline']
        · have hline' := mt hstart.startsLine.mpr hline
          rw [decide_eq_false hline, decide_eq_false hline', Bool.false_and, Bool.false_and]
      obtain ⟨gap, tail, gap', tail', hgap, hgap', hgaps, htails⟩ :=
        ih (hstart.concat hscanned hscanned' hcell.symm) hscanned.tail hscanned'.tail hrest.symm
      rw [List.length_append, List.length_singleton, decide_startsLine_concat] at hgap hgap'
      rw [splitGap, splitGap, hopens]
      split
      · exact ⟨[], _, [], _, rfl, rfl, rfl, h⟩
      · rw [hgap, hgap']
        exact ⟨cell :: gap, tail, cell' :: gap', tail', rfl, rfl, by simp [hcell, hgaps], htails⟩

def ParseError.SamePlace (error other : ParseError) : Prop :=
  error.kind = other.kind ∧ error.line = other.line ∧ error.column = other.column

theorem ParseError.samePlace_of_positionAt {error other : ParseError} {text text' : Text}
    {offset : Nat} (h : positionAt text offset = positionAt text' offset)
    (hkind : error.kind = other.kind)
    (herror : (error.line, error.column) =
      (some ↑(positionAt text offset).line, some ↑(positionAt text offset).column))
    (hother : (other.line, other.column) =
      (some ↑(positionAt text' offset).line, some ↑(positionAt text' offset).column)) :
    error.SamePlace other := by
  rw [h, ← hother] at herror
  exact ⟨hkind, (Prod.mk.inj herror).1, (Prod.mk.inj herror).2⟩

inductive Segment.SameCode : Segment → Segment → Prop
  | passthrough (text other : Text) : SameCode (.passthrough text) (.passthrough other)
  | block {block other : Block} {body body' : Text} (header : block.toHeader = other.toHeader)
      (kind : block.kind = other.kind) (lineNumber : block.lineNumber = other.lineNumber)
      (lines : block.lines = Line.ofBody body) (lines' : other.lines = Line.ofBody body')
      (masked : mask body = mask body') :
      SameCode (.block block) (.block other)

inductive SameReading :
    Except ParseError (List Segment) → Except ParseError (List Segment) → Prop
  | error {error other : ParseError} (place : error.SamePlace other) :
      SameReading (.error error) (.error other)
  | ok {segments others : List Segment} (alike : List.Forall₂ Segment.SameCode segments others) :
      SameReading (.ok segments) (.ok others)

theorem SameReading.map {result result' : Except ParseError (List Segment)}
    {change change' : List Segment → List Segment} (h : SameReading result result')
    (hchange : ∀ segments others, List.Forall₂ Segment.SameCode segments others →
      List.Forall₂ Segment.SameCode (change segments) (change' others)) :
    SameReading (result.map change) (result'.map change') := by
  cases h with
  | error place => exact .error place
  | ok alike => exact .ok (hchange _ _ alike)

theorem Segment.sameCode_ofGap {gap gap' : List Cell}
    (h : gap.map Cell.visible = gap'.map Cell.visible) :
    List.Forall₂ Segment.SameCode (Segment.ofGap gap) (Segment.ofGap gap') := by
  have hlength : gap.length = gap'.length := by simpa using congrArg List.length h
  cases gap with
  | nil =>
      obtain rfl := List.length_eq_zero_iff.mp hlength.symm
      exact .nil
  | cons cell gap =>
      obtain ⟨cell', gap', rfl⟩ := List.exists_cons_of_length_eq_add_one hlength.symm
      exact .cons (.passthrough _ _) .nil

theorem findIdx?_isBrace {cells others : List Cell}
    (h : cells.map Cell.visible = others.map Cell.visible) :
    cells.findIdx? Cell.isBrace = others.findIdx? Cell.isBrace := by
  have hvisible : ∀ list : List Cell, list.findIdx? Cell.isBrace =
      (list.map Cell.visible).findIdx? fun c => c == '\x7b' || c == '\x7d' := by
    intro list
    rw [List.findIdx?_map]
    rfl
  rw [hvisible, h, hvisible]

theorem splitGap_tail {before suffix : Text} {gap tail : List Cell}
    (h : splitGap before.length (decide (StartsLine before)) (cells suffix) = (gap, tail)) :
    tail = cells (textOf tail) := by
  obtain ⟨hcells, hline⟩ := splitGap_sound h
  have hscanned : ScannedBehind before (gap ++ tail) :=
    ⟨.code, suffix, hcells.symm, fun _ => rfl⟩
  rcases hline with rfl | ⟨hline, -⟩
  · rfl
  · exact hscanned.append.eq_cells hline

theorem splitBody_mask {text : Text} {body tail : List Cell}
    (h : splitBody 0 (cells text) = some (body, tail)) :
    mask (textOf body) = body.map Cell.visible ∧ tail = cells (textOf tail) := by
  obtain ⟨closing, hcells, hclosing, -⟩ := splitBody_sound h
  obtain ⟨hbody, -, htail⟩ := cellsFrom_brace hcells (by simp [Cell.isBrace, hclosing])
  exact ⟨by rw [mask, cells, ← hbody], htail⟩

theorem segmentsFrom_sameCode {text text' before other suffix suffix' : Text}
    (htext : mask text = mask text') (hstart : SameStart before other)
    (h : mask suffix = mask suffix') :
    SameReading (segmentsFrom text before.length (decide (StartsLine before)) (cells suffix))
      (segmentsFrom text' other.length (decide (StartsLine other)) (cells suffix')) := by
  induction hlength : suffix.length using Nat.strongRecOn
    generalizing before other suffix suffix' with
  | ind length ih =>
  subst hlength
  have hscanned : ScannedBehind before (cells suffix) := ⟨.code, suffix, rfl, fun _ => rfl⟩
  have hscanned' : ScannedBehind other (cells suffix') := ⟨.code, suffix', rfl, fun _ => rfl⟩
  obtain ⟨gap, tail, gap', tail', hgap, hgap', hgaps, htails⟩ :=
    splitGap_sameCode hstart hscanned hscanned' h
  have hlengths : gap.length = gap'.length := by simpa using congrArg List.length hgaps
  have htail := splitGap_tail hgap
  have htail' := splitGap_tail hgap'
  have hmask : mask (textOf tail) = mask (textOf tail') := by
    rw [mask, mask, ← htail, ← htail', htails]
  rw [segmentsFrom_eq text, segmentsFrom_eq text', hgap, hgap', hstart.length]
  dsimp only
  rw [findIdx?_isBrace hgaps, hlengths]
  have hplace := positionAt_of_mask htext
  cases hfind : gap'.findIdx? Cell.isBrace with
  | some index =>
      exact .error (ParseError.samePlace_of_positionAt (hplace _) rfl rfl rfl)
  | none =>
  dsimp only
  cases hread : Header.read? tail with
  | none =>
      have hnone : Header.read? tail' = none := by
        have hsome := Header.read?_isSome_sameCode hmask
        rw [← htail, ← htail', hread] at hsome
        simpa using hsome.symm
      rw [hnone]
      exact .ok (Segment.sameCode_ofGap hgaps)
  | some found =>
  obtain ⟨header, rest⟩ := found
  rw [htail] at hread
  obtain ⟨behind, hread', hrest, hbehind⟩ := Header.read?_sameCode hmask hread
  rw [← htail'] at hread'
  rw [hread']
  dsimp only
  have hvisible : rest.map Cell.visible = (cells behind).map Cell.visible := by
    rw [hrest]
    exact hbehind
  rcases splitBody_sameCode 0 hvisible with ⟨hnone, hnone'⟩ |
    ⟨body, later, body', later', hsome, hsome', hbodies, hlaters⟩
  · rw [hnone, hnone']
    exact .error (ParseError.samePlace_of_positionAt (hplace _) rfl rfl rfl)
  · have hshorter : (textOf later).length < suffix.length := by
      have hgapLength := splitGap_length before.length (decide (StartsLine before)) (cells suffix)
      have hreadLength := Header.read?_length hread
      have hbodyLength := splitBody_length hsome
      rw [hgap, htail, cells, length_cellsFrom] at hgapLength
      rw [length_textOf]
      simp only [cells, length_cellsFrom] at hgapLength hreadLength
      omega
    rw [hsome, hsome']
    dsimp only
    rw [hrest] at hsome
    obtain ⟨hbody, hlater⟩ := splitBody_mask hsome
    obtain ⟨hbody', hlater'⟩ := splitBody_mask hsome'
    have hbodyLengths : body.length = body'.length := by
      simpa using congrArg List.length hbodies
    have hmasks : mask (textOf later) = mask (textOf later') := by
      rw [mask, mask, ← hlater, ← hlater', hlaters]
    -- A block ends in a brace, and no line starts behind that.
    let front := before ++ textOf gap ++ header.render ++ textOf body ++ ['\x7d']
    let front' := other ++ textOf gap' ++ header.render ++ textOf body' ++ ['\x7d']
    have hline : ¬StartsLine front := not_startsLine_brace _
    have hline' : ¬StartsLine front' := not_startsLine_brace _
    have hfronts : SameStart front front' := by
      refine ⟨?_, iff_of_false hline hline'⟩
      simp [front, front', hstart.length, hlengths, hbodyLengths]
    have hnext := ih _ hshorter hfronts hmasks rfl
    rw [← hlater, ← hlater', decide_eq_false hline, decide_eq_false hline'] at hnext
    have hfront : front.length =
        other.length + gap'.length + header.render.length + body.length + 1 := by
      simp [front, hstart.length, hlengths, Nat.add_assoc]
    have hfront' : front'.length =
        other.length + gap'.length + header.render.length + body'.length + 1 := by
      simp [front', Nat.add_assoc]
    rw [hfront, hfront'] at hnext
    refine hnext.map fun segments others halike => ?_
    refine List.rel_append (Segment.sameCode_ofGap hgaps) (.cons ?_ halike)
    exact .block rfl rfl (congrArg Position.line (hplace _)) rfl rfl
      (by rw [hbody, hbody', hbodies])

theorem Document.parse_sameCode {text other : Text} (h : mask text = mask other) :
    (∃ error error', parse text = .error error ∧ parse other = .error error' ∧
        error.SamePlace error') ∨
      ∃ document document', parse text = .ok document ∧ parse other = .ok document' ∧
        List.Forall₂ Segment.SameCode document.segments document'.segments := by
  have hnothing : SameStart [] [] := ⟨rfl, Iff.rfl⟩
  have hreading := segmentsFrom_sameCode h hnothing h
  have hstart : decide (StartsLine []) = true := by decide
  rw [hstart, List.length_nil] at hreading
  unfold parse
  generalize segmentsFrom text 0 true (cells text) = result at hreading ⊢
  generalize segmentsFrom other 0 true (cells other) = result' at hreading ⊢
  cases hreading with
  | error place => exact .inl ⟨_, _, rfl, rfl, place⟩
  | ok alike => exact .inr ⟨_, _, rfl, rfl, alike⟩

end SchemaCase
