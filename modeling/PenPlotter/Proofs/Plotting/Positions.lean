import PenPlotter.Proofs.Plotting.Instructions

/-!
What a list of instructions draws, told by positions. The pen that an instruction draws with has
the last settings made before its position, and the pen at the end has the last settings of all;
nothing else is carried from one instruction to the next.
-/

namespace PenPlotter

universe u

-----------------------------------------------------------------------------------------
-- Last settings
-----------------------------------------------------------------------------------------

/-- The last value that a program sets, or else the one to begin with. -/
def Instruction.lastSet {α : Type} (setting? : Instruction → Option α) (initial : α)
    (program : List Instruction)
    : α :=
  (program.filterMap setting?).getLast?.getD initial

/-- A pen with the last settings of a program, each apart from the others. -/
def Pen.lastSettings (pen : Pen) (program : List Instruction) : Pen where
  position := Instruction.lastSet Instruction.target? pen.position program
  color := Instruction.lastSet Instruction.color? pen.color program
  fill := Instruction.lastSet Instruction.fill? pen.fill program

/-- The figures of a program, in order: at each position the one that its instruction draws with
the settings made before.
-/
def Instruction.drawing (pen : Pen) (program : List Instruction) : List Figure :=
  (program.mapIdx fun k instruction =>
    instruction.figure? (pen.lastSettings (program.take k))).filterMap id

namespace Instruction

theorem lastSet_cons {α : Type} (setting? : Instruction → Option α) (initial : α)
    (head : Instruction) (tail : List Instruction)
    : lastSet setting? initial (head :: tail)
      = lastSet setting? ((setting? head).getD initial) tail := by
  rw [lastSet, lastSet, List.filterMap_cons]
  cases setting? head with
  | none => rfl
  | some value => simp [List.getLast?_cons]

end Instruction

@[simp]
theorem Pen.lastSettings_nil (pen : Pen) : pen.lastSettings [] = pen :=
  rfl

theorem Pen.lastSettings_cons (pen : Pen) (head : Instruction) (tail : List Instruction)
    : pen.lastSettings (head :: tail) = (pen.after head).lastSettings tail := by
  simp only [lastSettings, after, Instruction.lastSet_cons]

namespace Instruction

@[simp]
theorem drawing_nil (pen : Pen) : drawing pen [] = [] :=
  rfl

/-- The first figure is drawn with the pen as given, and the others with the pen after it. -/
theorem drawing_cons (pen : Pen) (head : Instruction) (tail : List Instruction)
    : drawing pen (head :: tail)
      = (head.figure? pen).toList ++ drawing (pen.after head) tail := by
  simp only [drawing, List.mapIdx_cons, List.take_zero, Pen.lastSettings_nil,
    List.take_succ_cons, Pen.lastSettings_cons, List.filterMap_cons]
  cases head.figure? pen <;> rfl

theorem length_figure? (pen : Pen) (instruction : Instruction)
    : (instruction.figure? pen).toList.length = if instruction.draws then 1 else 0 := by
  cases instruction <;> rfl

/-- There is one figure for each instruction that draws, by induction on the program. -/
theorem length_drawing (pen : Pen) (program : List Instruction)
    : (drawing pen program).length = program.countP draws := by
  induction program generalizing pen with
  | nil => rfl
  | cons head tail ih =>
      rw [drawing_cons, List.length_append, length_figure?, ih, List.countP_cons, Nat.add_comm]

/-- The figure of an instruction that draws stands after those of the instructions that draw
before it, and is drawn with the settings made before it. By induction on the program.
-/
theorem drawing_at {program : List Instruction} {k : Nat} {instruction : Instruction}
    (here : program[k]? = some instruction) (draws : instruction.draws = true) (pen : Pen)
    : (drawing pen program)[(program.take k).countP Instruction.draws]?
      = instruction.figure? (pen.lastSettings (program.take k)) := by
  induction program generalizing pen k with
  | nil => simp at here
  | cons head tail ih =>
      rw [drawing_cons]
      cases k with
      | zero =>
          obtain rfl : head = instruction := by simpa using here
          have drawn : (head.figure? pen).isSome := by rw [isSome_figure?, draws]
          obtain ⟨figure, known⟩ := Option.isSome_iff_exists.mp drawn
          simp [known]
      | succ k =>
          -- The figures of the head, one or none, are passed over on both sides.
          have later := ih (by simpa using here) (pen.after head)
          have skipped := length_figure? pen head
          rw [List.take_succ_cons, List.countP_cons, Pen.lastSettings_cons, ← later,
            ← skipped, Nat.add_comm, List.getElem?_append_right (Nat.le_add_right _ _),
            Nat.add_sub_cancel_left]

end Instruction

-----------------------------------------------------------------------------------------
-- Instructions carried out in a row
-----------------------------------------------------------------------------------------

namespace Plotter

open Outcome

/-- Instructions that succeed leave the last settings and their figures, on every canvas. By
induction on the program, with the pen carried along.
-/
theorem each_perform_of_ok {κ : Type u} [Canvas κ] {plotter : Plotter κ}
    {program : List Instruction}
    (succeeded : (plotter.each perform program).result = .ok ())
    : (plotter.each perform program).plotter
      = ⟨plotter.pen.lastSettings program,
          Canvas.replay (Instruction.drawing plotter.pen program) plotter.canvas⟩ := by
  induction program generalizing plotter with
  | nil => rfl
  | cons head tail ih =>
      obtain ⟨-, rest⟩ := each_cons_of_ok succeeded
      rw [rest] at succeeded ⊢
      rw [ih succeeded, perform_eq, Pen.lastSettings_cons, Instruction.drawing_cons,
        Canvas.replay_append]

/-- Instructions succeed only when all of their colors exist. -/
theorem colors_known_of_ok {κ : Type u} [Canvas κ] {plotter : Plotter κ}
    {program : List Instruction}
    (succeeded : (plotter.each perform program).result = .ok ())
    {name : String} (member : .setColor name ∈ program)
    : ∃ color, Color.ofName? name = some color := by
  rw [each_result perform_result, resultOf_eq_ok] at succeeded
  have sound := List.findSome?_eq_none_iff.mp succeeded _ member
  cases known : Color.ofName? name with
  | some color => exact ⟨color, rfl⟩
  | none => simp [Instruction.fault?, known] at sound

/-- Instructions that succeed on a recording add one figure for each that draws, in order, and
none for the others. The figure of an instruction is drawn with the last target, color and
filling set before its position, and the pen ends with the last of each; what is never set is as
it was at first.
-/
theorem each_perform_by_position (plotter : Plotter Recording) (program : List Instruction)
    (succeeded : (plotter.each perform program).result = .ok ())
    : let final := (plotter.each perform program).plotter
      let gained := Instruction.drawing plotter.pen program
      final.canvas.figures = plotter.canvas.figures ++ gained
      ∧ gained.length = program.countP Instruction.draws
      ∧ (∀ k instruction,
          program[k]? = some instruction
          → instruction.draws = true
          → gained[(program.take k).countP Instruction.draws]?
            = instruction.figure? (plotter.pen.lastSettings (program.take k)))
      ∧ final.pen = plotter.pen.lastSettings program
      ∧ ∀ name, .setColor name ∈ program → ∃ color, Color.ofName? name = some color := by
  intro final gained
  have whole : final = _ := each_perform_of_ok succeeded
  refine ⟨?_, Instruction.length_drawing plotter.pen program, ?_, by rw [whole], ?_⟩
  · rw [whole, Recording.figures_replay]
  · intro k instruction here draws
    exact Instruction.drawing_at here draws plotter.pen
  · intro name member
    exact colors_known_of_ok succeeded member

/-- All eight commands, after a figure that was there before. -/
theorem each_perform_by_position_sample
    : let start : Plotter Recording := ⟨⟨⟨5, 5⟩, .white, true⟩, Recording.push {} .wipe⟩
      let program : List Instruction :=
        [.circle 1, .setColor "blue", .drawTo ⟨3, 4⟩, .setFill false, .moveTo ⟨7, 8⟩,
          .rectangle ⟨0, 0, 2, 1⟩, .triangle ⟨0, 0⟩ ⟨1, 0⟩ ⟨0, 1⟩, .clear, .circle 2]
      (start.each perform program).result = .ok ()
      ∧ (start.each perform program).plotter.canvas.figures
        = [.wipe,
            .ellipse (Box.around ⟨5, 5⟩ 1) .white true,
            .line ⟨5, 5⟩ ⟨3, 4⟩ ⟨0, 0, 255⟩,
            .rectangle ⟨0, 0, 2, 1⟩ ⟨0, 0, 255⟩ false,
            .polygon [⟨0, 0⟩, ⟨1, 0⟩, ⟨0, 1⟩] ⟨0, 0, 255⟩ false,
            .wipe,
            .ellipse (Box.around ⟨7, 8⟩ 2) ⟨0, 0, 255⟩ false]
      ∧ (start.each perform program).plotter.pen = ⟨⟨7, 8⟩, ⟨0, 0, 255⟩, false⟩ := by
  intro start program
  have succeeded : (start.each perform program).result = .ok () := by rfl
  obtain ⟨figures, -, -, pen, -⟩ := each_perform_by_position start program succeeded
  exact ⟨succeeded, figures.trans rfl, pen.trans rfl⟩

end Plotter

end PenPlotter
