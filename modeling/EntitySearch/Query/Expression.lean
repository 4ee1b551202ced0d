import EntitySearch.Query.Condition

/-!
# Expressions

A query is a tree of conditions. Within one level of parentheses all pieces are joined by the first
connective of the level; a strict reading refuses a level that has both.
-/

namespace EntitySearch

/-- **A query as a tree.** -/
inductive Expression where
  | condition (condition : Query.Condition)
  | group (connective : Connective) (children : List Expression)
  deriving BEq, Repr

namespace Query

/-- **Reading a level** and the levels inside it. -/
def readLevel (strict : Bool) (s : List Char) : Except SyntaxFault Expression :=
  let level := unwrap s
  if level.isEmpty then .error .emptyCondition
  else
    match _ : (cut level).rest with
    | [] => (readCondition level).map .condition
    | (connective, _) :: _ =>
      if strict && (cut level).connectives.any (· ≠ connective) then
        .error (.mixedConnectives (String.ofList level))
      else do
        -- each piece comes with the proof that it is one, which makes it shorter than the level
        let children ← (cut level).all.attach.mapM fun ⟨piece, _⟩ =>
          if (Text.trim piece).isEmpty then .error .missingOperand else readLevel strict piece
        .ok (.group connective children)
  termination_by s.length
  decreasing_by
    have shorter : piece.length < (unwrap s).length :=
      length_lt_of_mem_cut (by simp_all [level]) (by assumption)
    have := length_unwrap_le s
    omega

/-- Reading a piece of a level. -/
def readPiece (strict : Bool) (piece : List Char) : Except SyntaxFault Expression :=
  if (Text.trim piece).isEmpty then .error .missingOperand else readLevel strict piece

section Levels

variable {strict : Bool} {s level : List Char}

/-- A level without connectives is a condition. -/
theorem readLevel_of_whole (text : unwrap s = level) (nonempty : level ≠ [])
    (whole : (cut level).rest = []) :
    readLevel strict s = (readCondition level).map .condition := by
  subst text
  rw [readLevel]
  simp only [List.isEmpty_iff, nonempty, ↓reduceIte]
  split
  · rfl
  · next cuts =>
    rw [whole] at cuts
    cases cuts

/-- A level with connectives is the group of its pieces. -/
theorem readLevel_of_pieces {pieces : Pieces} {connective : Connective} {piece : List Char}
    {rest : List (Connective × List Char)} (text : unwrap s = level) (cuts : cut level = pieces)
    (more : pieces.rest = (connective, piece) :: rest) :
    readLevel strict s =
      if strict && pieces.connectives.any (· ≠ connective) then
        .error (.mixedConnectives (String.ofList level))
      else (pieces.all.mapM (readPiece strict)).map (.group connective) := by
  subst text
  subst cuts
  have nonempty : unwrap s ≠ [] := by
    intro empty
    rw [empty] at more
    cases more
  rw [readLevel]
  simp only [List.isEmpty_iff, nonempty, ↓reduceIte]
  split
  · next whole =>
    rw [more] at whole
    cases whole
  · next found =>
    rw [more] at found
    obtain ⟨⟨rfl, rfl⟩, rfl⟩ := List.cons.inj found
    -- the definition reads each piece together with the proof that it is one of the pieces
    have same : (cut (unwrap s)).all.attach.mapM (fun piece =>
        if Text.trim piece.1 = [] then .error .missingOperand else readLevel strict piece.1) =
          (cut (unwrap s)).all.mapM (readPiece strict) := by
      rw [List.mapM_subtype (fun piece _ => ?_), List.unattach_attach]
      simp only [readPiece, List.isEmpty_iff]
    congr 1
    exact congrArg (Except.bind · _) same

/-- Reading a piece that is a condition. -/
theorem readPiece_of_whole {condition : Condition} (text : unwrap s = level)
    (there : (Text.trim s).isEmpty = false) (nonempty : level ≠ []) (whole : (cut level).rest = [])
    (read : readCondition level = .ok condition) :
    readPiece strict s = .ok (.condition condition) := by
  rw [readPiece, there, readLevel_of_whole text nonempty whole, read]
  rfl

end Levels

/-- Reading a text whose structure has not been checked. -/
def readChecked (strict : Bool) (s : List Char) : Except SyntaxFault Expression :=
  match checkStructure s with
  | .ok () => readLevel strict s
  | .error fault => .error fault

/-- **Reading a query.** `strict` refuses `&` and `|` at one level. -/
def read (strict : Bool) (query : String) : Except SyntaxFault Expression :=
  if Text.isBlankText query then .error .emptyQuery else readChecked strict query.toList

end Query

mutual

/-- The conditions of a query from left to right. -/
def Expression.conditions : Expression → List Query.Condition
  | condition c => [c]
  | group _ children => Expression.conditionsOf children

/-- The conditions of a list of queries from left to right. -/
def Expression.conditionsOf : List Expression → List Query.Condition
  | [] => []
  | child :: rest => child.conditions ++ Expression.conditionsOf rest

end

end EntitySearch
