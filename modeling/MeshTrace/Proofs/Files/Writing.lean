import MeshTrace.Proofs.Files.Tree
import MeshTrace.Proofs.Procedure

/-!
# What becomes of a text that is written

A file is made, or what was in it is thrown away, before any of the text is written, and the
file may not take all of it.  So writing a text has three ends (`Written`): there is no place
for the file, and then nothing has happened; the file is left with the part of the text that
it took; or it has the whole text, which is then read by the same pathname (`Written.read`).
`Procedure.execute_write` says that there is no other end.
-/

namespace MeshTrace

namespace FileTree

/-- What is put at a location replaces what was put there before. -/
theorem put_put {γ : Type} (tree : FileTree γ) (location : Location) (first second : Node γ) :
    (tree.put location first).put location second = tree.put location second := by
  have hnodes : (tree.nodes.insert location first).insert location second =
      tree.nodes.insert location second := by
    apply Std.ExtTreeMap.ext_getElem?
    intro other
    simp only [Std.ExtTreeMap.getElem?_insert]
    split <;> rfl
  rw [put, put, hnodes]
  rfl

/-- A file that was made or emptied is filled as if it had not been. -/
theorem fill_put (tree : FileTree Content) (location : Location) (node : Node Content)
    (text : String) : (tree.put location node).fill location text = tree.fill location text := by
  have hlimit : (tree.put location node).exceeded? location text.utf8ByteSize =
      tree.exceeded? location text.utf8ByteSize := rfl
  rw [fill, fill, hlimit]
  split <;> rw [put_put]

/-- **The ends of writing a text**, with the files that they leave.  `creating` and `writing`
say how a failure of the one and of the other step is seen, and `done` is what comes of
success. -/
inductive Written {α : Type} (files : FileTree Content) (path text : String)
    (creating writing : FileError → Failure) (done : α) :
    Except Failure α → FileTree Content → Prop
  /-- There is no place for the file. -/
  | refused {error : FileError} (hplace : files.place path = .error error) :
      Written files path text creating writing done (.error (creating error)) files
  /-- The file takes only a part of the text. -/
  | cut {location : Location} {limit : FileLimit} (hplace : files.place path = .ok location)
      (hlimit : files.exceeded? location text.utf8ByteSize = some limit) :
      Written files path text creating writing done (.error (writing limit.error))
        (files.put location (.file (.bytes (text.toUTF8.data.toList.take limit.room))))
  /-- The file takes the whole text. -/
  | whole {location : Location} (hplace : files.place path = .ok location)
      (hroom : files.exceeded? location text.utf8ByteSize = none) :
      Written files path text creating writing done (.ok done)
        (files.put location (.file (.text text)))

namespace Written

variable {α : Type} {files after : FileTree Content} {path text : String}
  {creating writing : FileError → Failure} {done : α} {outcome : Except Failure α}

/-- Writing succeeds exactly if there is a place where the file takes the whole text. -/
theorem eq_ok_iff (h : Written files path text creating writing done outcome after) :
    outcome = .ok done ↔ ∃ location, files.place path = .ok location ∧
      files.exceeded? location text.utf8ByteSize = none := by
  constructor
  · rintro rfl
    cases h with
    | whole hplace hroom => exact ⟨_, hplace, hroom⟩
  · rintro ⟨location, hfound, hfits⟩
    cases h with
    | refused hplace =>
        rw [hfound] at hplace
        cases hplace
    | cut hplace hlimit =>
        rw [hfound] at hplace
        cases hplace
        rw [hfits] at hlimit
        cases hlimit
    | whole => rfl

/-- **A text that was written is read.** -/
theorem read (h : Written files path text creating writing done outcome after)
    (hok : outcome = .ok done) : after.read path = .ok (.text text) := by
  subst hok
  cases h with
  | whole hplace => exact (place_eq_ok_iff.mp hplace).read (.text text)

/-- What comes of success does not matter to how writing ends. -/
theorem map_const {β : Type} (h : Written files path text creating writing done outcome after)
    (other : β) :
    Written files path text creating writing other (outcome.map fun _ => other) after := by
  cases h with
  | refused hplace => exact .refused hplace
  | cut hplace hlimit => exact .cut hplace hlimit
  | whole hplace hroom => exact .whole hplace hroom

end Written

end FileTree

/-- **Writing a text ends in one of the three ways**, and changes nothing but the files. -/
theorem Procedure.execute_write (path text : String) (creating writing : FileError → Failure)
    (system : System) :
    ∃ outcome files,
      (write path text creating writing).execute system = (outcome, { system with files }) ∧
        system.files.Written path text creating writing () outcome files := by
  cases hplace : system.files.place path with
  | error error =>
      refine ⟨_, system.files, ?_, .refused hplace⟩
      rw [write, execute_bind, execute_get]
      dsimp only
      rw [hplace]
      rfl
  | ok location =>
      rw [write, execute_bind, execute_get]
      dsimp only
      rw [hplace, execute_bind, execute_check_ok]
      dsimp only
      rw [execute_bind, execute_modify]
      dsimp only
      rw [execute_bind, execute_get]
      dsimp only
      rw [FileTree.fill_put, FileTree.fill]
      cases hlimit : system.files.exceeded? location text.utf8ByteSize with
      | none => exact ⟨_, _, rfl, .whole hplace hlimit⟩
      | some limit => exact ⟨_, _, rfl, .cut hplace hlimit⟩

-- A file that takes three bytes is left with the first three of six.
example :
    let files : FileTree Content := { limits := fun _ => some ⟨3, .noSpace⟩ }
    let ended := (Procedure.write "/out" "report" (.createOutput "/out")
      (.writeOutput "/out")).execute { files }
    ended.1 = .error (.writeOutput "/out" .noSpace) ∧
      ended.2.files.get? ["out"] = some (.file (.bytes [0x72, 0x65, 0x70])) :=
  ⟨rfl, rfl⟩

end MeshTrace
