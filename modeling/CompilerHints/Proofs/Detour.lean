import CompilerHints.Proofs.FileSystem
import CompilerHints.Proofs.Path

/-!
# Paths with detours

Steps to the same directory make a path longer and lead nowhere else. A directory can be reached by
a path that is so long that none of its files is reached through it.

* `Path.detour`: a path with such steps behind it.
* `FileSystem.locate?_detour`, `FileSystem.list?_detour`: it leads where the path leads, unless it
  is too long.
* `Path.reaches_eq_false`: names that are too long for a path.
-/

namespace CompilerHints

namespace Path

/-- A path with some steps to the same directory behind it. -/
def detour (p : Path) : Nat → Path
  | 0 => p
  | n + 1 => ⟨(p.detour n).text ++ "/."⟩

theorem utf8ByteSize_detour (p : Path) (n : Nat) :
    (p.detour n).text.utf8ByteSize = p.text.utf8ByteSize + 2 * n := by
  induction n with
  | zero => rfl
  | succ n ih =>
    have hstep : ("/.").utf8ByteSize = 2 := rfl
    rw [detour, String.utf8ByteSize_append, ih, hstep]
    omega

theorem toList_detour_succ (p : Path) (n : Nat) :
    (p.detour (n + 1)).text.toList = (p.detour n).text.toList ++ ['/', '.'] := by
  rw [detour, String.toList_append]
  rfl

theorem detour_ne_empty {p : Path} (h : p.text ≠ "") (n : Nat) : (p.detour n).text ≠ "" := by
  cases n with
  | zero => exact h
  | succ n =>
    intro e
    have hlist := p.toList_detour_succ n
    rw [e] at hlist
    exact List.append_ne_nil_of_right_ne_nil _ (List.cons_ne_nil _ _) hlist.symm

theorem isAbsolute_detour_succ {p : Path} (h : p.text ≠ "") (n : Nat) :
    (p.detour (n + 1)).isAbsolute = (p.detour n).isAbsolute := by
  have hne : (p.detour n).text.toList ≠ [] :=
    fun e => detour_ne_empty h n (String.toList_inj.1 e)
  obtain ⟨c, cs, hcs⟩ := List.exists_cons_of_ne_nil hne
  rw [isAbsolute, isAbsolute, toList_detour_succ, hcs]
  rfl

/-- A detour has one step more. -/
theorem steps_detour_succ {p : Path} (h : p.text ≠ "") (n : Nat) :
    (p.detour (n + 1)).steps = (p.detour n).steps ++ [.current] := by
  rw [steps_eq, steps_eq, isAbsolute_detour_succ h, toList_detour_succ, innerSteps_append,
    List.append_assoc]
  rfl

theorem isUsable_detour {p : Path} (h : p.isUsable = true) {n : Nat}
    (hlength : p.text.utf8ByteSize + 2 * n ≤ maxLength) : (p.detour n).isUsable = true := by
  have hzero : (p.detour n).text.toList.contains '\x00' = false := by
    rw [isUsable, Bool.and_eq_true, Bool.not_eq_true'] at h
    clear hlength
    induction n with
    | zero => exact h.2
    | succ n ih =>
      rw [toList_detour_succ]
      simpa using ih
  rw [isUsable, utf8ByteSize_detour, hzero, decide_eq_true hlength]
  rfl

/-- A path through a directory that is too long does not reach what is there. -/
theorem reaches_eq_false {dir : Path} {name : String} (hname : (Path.mk name).isAbsolute = false)
    (hlength : maxLength < dir.text.utf8ByteSize + name.utf8ByteSize) :
    dir.reaches name = false := by
  have hjoin : dir.text.utf8ByteSize + name.utf8ByteSize ≤
      (dir.join ⟨name⟩).text.utf8ByteSize := by
    rw [join, hname, if_neg Bool.false_ne_true]
    split
    · exact Nat.le_of_eq String.utf8ByteSize_append.symm
    · rw [String.utf8ByteSize_append, String.utf8ByteSize_append]
      dsimp only
      omega
  rw [reaches, isUsable, decide_eq_false (by omega)]
  rfl

end Path

namespace FileSystem

variable {fs : FileSystem} {p : Path}

/-- A detour leads to the same directory, if the system takes it. -/
theorem locate?_detour {loc : Location} (h : fs.locate? p = some loc)
    (hdir : fs.isDirectoryAt loc = true) {n : Nat}
    (hlength : p.text.utf8ByteSize + 2 * n ≤ Path.maxLength) :
    fs.locate? (p.detour n) = some loc := by
  obtain ⟨htext, husable, hwalk, -⟩ := locate?_eq_some_iff.1 h
  have hwalk' : fs.walk? fs.workingDirectory (p.detour n).steps = some loc := by
    clear hlength
    induction n with
    | zero => exact hwalk
    | succ n ih =>
      rw [Path.steps_detour_succ htext, walk?_append, ih, Option.bind_some, walk?_cons, follow?,
        if_pos hdir, Option.bind_some, walk?_nil]
  exact locate?_eq_some_iff.2
    ⟨Path.detour_ne_empty htext n, Path.isUsable_detour husable hlength, hwalk', fun _ => hdir⟩

theorem list?_detour (h : fs.isDirectory p = true) {n : Nat}
    (hlength : p.text.utf8ByteSize + 2 * n ≤ Path.maxLength) :
    fs.list? (p.detour n) = fs.list? p := by
  obtain ⟨loc, hlocate, hdir⟩ := isDirectory_iff.1 h
  rw [list?, list?, hlocate, locate?_detour hlocate hdir hlength]

theorem isDirectory_detour (h : fs.isDirectory p = true) {n : Nat}
    (hlength : p.text.utf8ByteSize + 2 * n ≤ Path.maxLength) :
    fs.isDirectory (p.detour n) = true := by
  obtain ⟨loc, hlocate, hdir⟩ := isDirectory_iff.1 h
  exact isDirectory_iff.2 ⟨loc, locate?_detour hlocate hdir hlength, hdir⟩

end FileSystem

end CompilerHints
