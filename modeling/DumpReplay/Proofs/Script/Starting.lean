import DumpReplay.Script.Launching

/-!
# Which programs can be started

A script machine starts a program of its own, or a script whose interpreter is a program.  Whether one
can be started is told by the files alone: what the script says decides how it ends, not whether it
starts.  A process that cannot be started changes nothing.

Main results:

- `start_ok_iff` : which programs can be started.
- `launch_ok_iff` : a command is run if one of the places where its program may stand holds one that can
  be started.
- `launch_files_of_error` : a command that is refused leaves the files as they are.
-/

namespace DumpReplay.Script

variable {environment : List (String × String)} {here : Location} {files : FileTree} {path : Path}
variable {arguments : List String} {cause : IoError}

/-! ## One program -/

/-- A program that can be started: one of the machine's own, or a script whose interpreter is a
program. -/
inductive Startable (files : FileTree) (here : Location) (path : Path) : Prop where
  /-- The machine has the program by itself. -/
  | own {location : Location} {bytes : ByteArray}
      (hprogram : checkProgram files here path = .ok (location, bytes))
      (hcode : isMachineCode bytes = true)
  /-- The program is a script that names its interpreter. -/
  | script {location location' : Location} {bytes bytes' : ByteArray} {interpreter : Path}
      (hprogram : checkProgram files here path = .ok (location, bytes))
      (hnames : interpreter? bytes = some interpreter)
      (hinterpreter : checkProgram files here interpreter = .ok (location', bytes'))

/-- A program is run exactly if it can be started. -/
theorem start_ok_iff :
    (∃ ending, (start environment here files path arguments).1 = .ok ending) ↔
      Startable files here path := by
  unfold start
  constructor
  · rintro ⟨ending, h⟩
    split at h
    · simp at h
    · rename_i hprogram
      split at h
      · rename_i hcode
        exact .own hprogram hcode
      · split at h
        · simp at h
        · rename_i hnames
          split at h
          · simp at h
          · rename_i hinterpreter
            exact .script hprogram hnames hinterpreter
  · intro h
    cases h with
    | own hprogram hcode =>
      rw [hprogram]
      exact ⟨_, congrArg Prod.fst (if_pos hcode)⟩
    | @script _ _ bytes _ _ hprogram hnames hinterpreter =>
      rw [hprogram]
      by_cases hcode : isMachineCode bytes = true
      · exact ⟨_, congrArg Prod.fst (if_pos hcode)⟩
      · simp only [hcode, hnames, hinterpreter]
        exact ⟨_, rfl⟩

/-- A program that cannot be started changes nothing. -/
theorem start_files_of_error (h : (start environment here files path arguments).1 = .error cause) :
    (start environment here files path arguments).2 = files := by
  unfold start at h ⊢
  split
  · rfl
  · split
    · simp_all
    · split
      · rfl
      · split
        · rfl
        · simp_all

/-! ## The first program of some -/

section First

variable {attempt : Path → Except IoError Ending × FileTree}

/-- A program that cannot be run leaves it to the next one. -/
theorem startFirst_of_error {next : Path} {rest : List Path} (h : (attempt path).1 = .error cause) :
    startFirst attempt files (path :: next :: rest) = startFirst attempt files (next :: rest) := by
  rcases hpath : attempt path with ⟨_ | ending, left⟩
  · simp only [startFirst, hpath]
  · simp [hpath] at h

/-- One of some programs is run exactly if one of them can be. -/
theorem startFirst_ok_iff (paths : List Path) :
    (∃ ending, (startFirst attempt files paths).1 = .ok ending) ↔
      ∃ path ∈ paths, ∃ ending, (attempt path).1 = .ok ending := by
  induction paths with
  | nil => simp [startFirst]
  | cons path rest ih =>
    cases rest with
    | nil => simp [startFirst]
    | cons next rest =>
      rcases hpath : attempt path with ⟨_ | ending, left⟩
      · rw [startFirst_of_error (congrArg Prod.fst hpath), ih]
        simp [hpath]
      · simp [startFirst, hpath]

/-- If none of some programs can be run, nothing changes. -/
theorem startFirst_files_of_error
    (hattempt : ∀ path cause, (attempt path).1 = .error cause → (attempt path).2 = files)
    (paths : List Path) (h : (startFirst attempt files paths).1 = .error cause) :
    (startFirst attempt files paths).2 = files := by
  induction paths with
  | nil => rfl
  | cons path rest ih =>
    cases rest with
    | nil => exact hattempt path cause h
    | cons next rest =>
      rcases hpath : attempt path with ⟨_ | ending, left⟩
      · rw [startFirst_of_error (congrArg Prod.fst hpath)] at h ⊢
        exact ih h
      · simp [startFirst, hpath] at h

end First

/-! ## Commands -/

variable {command : DumpReplay.Command}

/-- A command is run exactly if no part of it has a null character, and one of the places where its
program may stand holds a program that can be started. -/
theorem launch_ok_iff :
    (∃ ending, (launch environment here command files).1 = .ok ending) ↔
      (∀ text ∈ command.program.text :: command.arguments, '\x00' ∉ text.toList) ∧
        ∃ path ∈ programPaths command.program ((environment.lookup "PATH").getD ""),
          Startable files here path := by
  unfold launch
  dsimp only
  split
  · rename_i hnull
    simp only [Bool.or_eq_true, List.any_eq_true, List.contains_iff_mem] at hnull
    refine iff_of_false (by simp) fun h => ?_
    rcases hnull with hprogram | ⟨text, hmem, hargument⟩
    · exact h.1 _ List.mem_cons_self hprogram
    · exact h.1 text (List.mem_cons_of_mem _ hmem) hargument
  · rename_i hnull
    rw [startFirst_ok_iff]
    simp_all [start_ok_iff]

/-- A command that is refused leaves the files as they are. -/
theorem launch_files_of_error (h : (launch environment here command files).1 = .error cause) :
    (launch environment here command files).2 = files := by
  unfold launch at h ⊢
  dsimp only at h ⊢
  split
  · rfl
  · rename_i hnull
    rw [if_neg hnull] at h
    exact startFirst_files_of_error (fun _ _ => start_files_of_error) _ h

end DumpReplay.Script
