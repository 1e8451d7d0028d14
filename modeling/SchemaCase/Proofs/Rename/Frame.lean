import SchemaCase.Proofs.Rename.Changes

/-! What a migration leaves alone. The text it gives is that of the segments it was given, in
order; in a declaration only names, types and recorded database names differ. -/

namespace SchemaCase

open Source

/-- The record of a name: there is one exactly if the name changes. -/
inductive Recorded (scope : Scope) (block name : Text) : Text → Bool → List Record → Prop
  | unchanged : Recorded scope block name name false []
  | changed {newName : Text} {mapped : Bool} (differs : newName ≠ name) :
      Recorded scope block name newName mapped [⟨scope, block, name, newName, mapped⟩]

inductive Retyped (newType? : Text → Option Text) (rest : Text) : Text → Text → Prop
  | typed {token behind : Text} (reads : Text.readName? rest = some (token, behind)) :
      Retyped newType? rest token ((newType? token).getD token)
  | untyped (reads : Text.readName? rest = none) : Retyped newType? rest [] []

/-- What is written for a line. A field line keeps its indentation, gap and terminator. What
follows the gap changes in its type and, if the old name was recorded as the database name, by the
call for that, which stands behind the code. -/
inductive LineFrame (newType? : Text → Option Text) (block : Text) :
    Line → Text → List Record → Prop
  | other {line : Line} (notField : line.isField = false) :
      LineFrame newType? block line line.render []
  | field {line : Line} {name newName token newToken code blanks comment : Text} {mapped : Bool}
      {records : List Record}
      (isField : line.isField)
      (named : line.fieldName = some name)
      (record : Recorded .field block name newName mapped records)
      (retyped : Retyped newType? line.rest token newToken)
      (split : CodeSplit line.rest (token ++ code) blanks comment) :
      LineFrame newType? block line
        (line.indent ++ newName ++ line.gap ++
          (newToken ++ code ++
            (if mapped then ' ' :: mapCall name ++ commentGap blanks comment else blanks) ++
            comment) ++
          line.terminator)
        records

/-- The texts of lines with that of a `@@map` line among them: it stands below the first of them,
or at the top below an empty line. -/
inductive MapInserted (name : Text) : List Text → List Text → Prop
  | below {first indent terminator : Text} {rest : List Text}
      (blank : ∀ c ∈ indent, Text.isBlank c)
      (lineEnd : terminator = ['\n'] ∨ terminator = ['\r', '\n']) :
      MapInserted name (first :: rest)
        (first :: (indent ++ '@' :: mapCall name ++ terminator) :: rest)
  | top {indent terminator : Text} {texts : List Text}
      (blank : ∀ c ∈ indent, Text.isBlank c)
      (lineEnd : terminator = ['\n'] ∨ terminator = ['\r', '\n']) :
      MapInserted name texts
        (terminator :: (indent ++ '@' :: mapCall name ++ terminator) :: texts)

inductive BlockFrame (newType? : Text → Option Text) : Block → Text → List Record → Prop
  | plain {block : Block} {newName : Text} {texts : List Text} {records more : List Record}
      (record : Recorded (.ofBlockKind block.kind) newName block.name newName false records)
      (lines : Changes (LineFrame newType? newName) block.lines texts more) :
      BlockFrame newType? block
        ({ block.toHeader with name := newName }.render ++ texts.flatten ++ block.closing)
        (records ++ more)
  | mapped {block : Block} {newName : Text} {texts inserted : List Text}
      {records more : List Record}
      (record : Recorded (.ofBlockKind block.kind) newName block.name newName true records)
      (lines : Changes (LineFrame newType? newName) block.lines texts more)
      (insertion : MapInserted block.name texts inserted) :
      BlockFrame newType? block
        ({ block.toHeader with name := newName }.render ++ inserted.flatten ++ block.closing)
        (records ++ more)

inductive SegmentFrame (newType? : Text → Option Text) : Segment → Text → List Record → Prop
  | passthrough {text : Text} : SegmentFrame newType? (.passthrough text) text []
  | other {block : Block} (notDeclaration : block.isDeclaration = false) :
      SegmentFrame newType? (.block block) block.render []
  | declaration {block : Block} {text : Text} {records : List Record}
      (isDeclaration : block.isDeclaration)
      (frame : BlockFrame (block.typeRule newType?) block text records) :
      SegmentFrame newType? (.block block) text records

/-- The type stands in front of the place where a database name is recorded. -/
theorem exists_token_split {parts : FieldParts} (h : parts.WellFormed)
    (newType? : Text → Option Text) :
    ∃ token newToken code blanks comment,
      Retyped newType? parts.rest token newToken ∧
        CodeSplit parts.rest (token ++ code) blanks comment ∧
        retype newType? parts.rest = newToken ++ code ++ blanks ++ comment ∧
        retype newType? (annotate parts.name parts.rest) =
          newToken ++ code ++ (' ' :: mapCall parts.name ++ commentGap blanks comment) ++
            comment := by
  obtain ⟨code, blanks, comment, hsplit⟩ := exists_codeSplit parts.rest
  obtain ⟨token, tail, rfl, hread, hannotated⟩ | ⟨hread, hannotated⟩ :=
    h.readName?_annotate hsplit parts.name
  · refine ⟨token, _, tail, blanks, comment, .typed hread, hsplit, ?_, ?_⟩
    · simp [retype, hread]
    · simp [retype, hannotated]
  · refine ⟨[], [], code, blanks, comment, .untyped hread, hsplit, ?_, ?_⟩
    · rw [retype, hread]
      exact hsplit.eq_append
    · rw [retype, hannotated]
      simp [annotate_eq hsplit]

theorem LineChange.frame {rule newType? : Text → Option Text} {block : Text}
    {before after : Line} {records : List Record}
    (h : LineChange rule newType? block before after records) :
    LineFrame newType? block before after.render records := by
  cases h with
  | other hfield => exact .other hfield
  | @kept parts terminator literal hparts =>
      obtain ⟨token, newToken, code, blanks, comment, hretyped, hsplit, hrest, -⟩ :=
        exists_token_split hparts newType?
      have hrender : ({ parts with rest := SchemaCase.retype newType? parts.rest }.line terminator
          literal).render = parts.indent ++ parts.name ++ parts.gap ++
            (newToken ++ code ++ blanks ++ comment) ++ terminator := by
        rw [hrest]
        rfl
      rw [hrender]
      exact .field rfl rfl .unchanged hretyped hsplit
  | @renamed parts terminator newName literal hparts hrule hidentifier hdiffers =>
      obtain ⟨token, newToken, code, blanks, comment, hretyped, hsplit, hrest, hannotated⟩ :=
        exists_token_split hparts newType?
      have hrecorded : SchemaCase.retype newType? (parts.recordedRest literal) =
          newToken ++ code ++
            (if literal.isNone then ' ' :: mapCall parts.name ++ commentGap blanks comment
              else blanks) ++ comment := by
        cases literal with
        | none => exact hannotated
        | some literal => exact hrest
      have hrender : ({ parts with
          name := newName
          rest := SchemaCase.retype newType? (parts.recordedRest literal) }.line terminator
            (some (literal.getD parts.name))).render = parts.indent ++ newName ++ parts.gap ++
          (newToken ++ code ++
            (if literal.isNone then ' ' :: mapCall parts.name ++ commentGap blanks comment
              else blanks) ++ comment) ++ terminator := by
        rw [hrecorded]
        rfl
      rw [hrender]
      exact .field rfl rfl (.changed hdiffers) hretyped hsplit

theorem Block.render_eq_flatten (block : Block) :
    block.render = block.toHeader.render ++ (block.lines.map Line.render).flatten ++
      block.closing := by
  rw [render, body, List.flatMap_def]
  rfl

theorem MapInsertion.frame {block : Block} {changed inserted : List Line}
    (hbody : Line.IsBody block.lines) (h : MapInsertion block changed inserted) :
    MapInserted block.name (changed.map Line.render) (inserted.map Line.render) := by
  have hmap : (block.mapLine block.name).render =
      block.innerIndent ++ '@' :: mapCall block.name ++ block.innerTerminator := by
    rw [Block.mapLine_eq]
    rfl
  have hend := Block.innerTerminator_cases hbody
  cases h with
  | below hfield hterminated =>
      rw [List.map_cons, List.map_cons, List.map_cons, hmap]
      exact .below block.isBlank_of_mem_innerIndent hend
  | headerEnd =>
      rw [List.map_cons, List.map_cons, hmap]
      exact .top block.isBlank_of_mem_innerIndent hend

theorem BlockChange.frame {naming : Naming} {newType? : Text → Option Text} {block after : Block}
    {records : List Record} (hready : block.Ready)
    (h : BlockChange naming newType? block after records) :
    BlockFrame newType? block after.render records := by
  cases h with
  | kept lines =>
      rw [Block.render_eq_flatten]
      exact .plain .unchanged (lines.map _ fun _ _ _ _ change => change.frame)
  | renamed hrule hidentifier hdiffers hmap lines =>
      rw [Block.render_eq_flatten]
      exact .plain (.changed hdiffers) (lines.map _ fun _ _ _ _ change => change.frame)
  | mapped hrule hidentifier hdiffers hmap lines insertion =>
      rw [Block.render_eq_flatten]
      exact .mapped (.changed hdiffers) (lines.map _ fun _ _ _ _ change => change.frame)
        (insertion.frame hready.isBody)

theorem SegmentChange.frame {naming : Naming} {newType? : Text → Option Text}
    {before after : Segment} {records : List Record} (hready : before.Ready)
    (h : SegmentChange naming newType? before after records) :
    SegmentFrame newType? before after.render records := by
  cases h with
  | passthrough => exact .passthrough
  | other hdeclaration => exact .other hdeclaration
  | declaration hdeclaration change =>
      exact .declaration hdeclaration (change.frame (hready.2.2 hdeclaration))

/-- A migration writes every segment that it was given, in order, and changes nothing in it but
what its frame allows. -/
theorem migrate_frame (tableCase fieldCase tableInflection : Text → Text)
    (renameReferences : Bool) {text : Text} {document : Document}
    (hread : Document.read text = .ok document) :
    ∃ texts records,
      migrate (.ofNames tableCase fieldCase tableInflection) renameReferences text =
          .ok ⟨texts.flatten, records⟩ ∧
        Changes (SegmentFrame (referenceRule records renameReferences)) document.segments texts
          records := by
  have hnaming : document.blocks.findSome?
      (Naming.ofNames tableCase fieldCase tableInflection).refused? = none := by
    simp
  obtain ⟨segments, records, hmigrate, hchanges⟩ :=
    migrate_changes renameReferences hread hnaming
  refine ⟨segments.map Segment.render, records, ?_, ?_⟩
  · rw [hmigrate, Document.render, List.flatMap_def]
  · exact hchanges.map _ fun segment hsegment _ _ change =>
      change.frame (Document.ready_of_read hread segment hsegment)

/-- Both the model and its field are renamed below a header line with a comment, and the field
names its own model as its type. -/
theorem migrate_frame_selfReference :
    let text := "model a_b \x7b // c\r\n  d_e a_b? // f\r\n\x7d\n".toList
    let header : Header := { keyword := "model".toList, name := "a_b".toList }
    let pieces := [.block header " // c\r\n  d_e a_b? // f\r\n".toList, .passthrough ['\n']]
    let document := (Piece.document text pieces).classify
    Document.read text = .ok document ∧
      ∃ texts records,
        migrate (.ofNames (fun _ => "G".toList) (fun _ => "h".toList) id) true text =
            .ok ⟨texts.flatten, records⟩ ∧
          Changes (SegmentFrame (referenceRule records true)) document.segments texts records := by
  intro text header pieces document
  have hread : Document.read text = .ok document := by decide +kernel
  exact ⟨hread, migrate_frame (fun _ => "G".toList) (fun _ => "h".toList) id true hread⟩

/-- A comment that follows the code directly is kept apart from a recorded name by one blank more:
the call alone, put anywhere into what follows the gap, does not give what is written. -/
theorem migrate_separates_comment :
    migrate (.ofNames id (fun _ => "x".toList) id) true
        "model A \x7b\n  a_b Int// c\n\x7d".toList =
      .ok ⟨"model A \x7b\n  x Int @map(\"a_b\") // c\n\x7d".toList,
        [⟨.field, "A".toList, "a_b".toList, "x".toList, true⟩]⟩ ∧
      ¬∃ front back, "Int// c".toList = front ++ back ∧
        "Int @map(\"a_b\") // c".toList = front ++ ' ' :: mapCall "a_b".toList ++ back := by
  refine ⟨by decide +kernel, ?_⟩
  rintro ⟨front, back, hbefore, hafter⟩
  have hshort := congrArg List.length hbefore
  have hlong := congrArg List.length hafter
  simp [mapCall_eq] at hshort hlong
  omega

end SchemaCase
