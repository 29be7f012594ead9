import Exposure.Artifact.Write
import Exposure.Proofs.FileSystem.Change
import Mathlib.Data.List.Nodup

/-!
Writing a file beside another. The temporary file has a name that is free, so that the directory is
as before while it comes and goes; in the last step the target gets all bytes at once. Into an empty
directory this puts the one file.
-/
namespace Exposure.FileSystem

theorem temporaryName_ne (target : String) (n : Nat) : temporaryName target n ≠ target := by
  intro h
  have hlength := congrArg String.length h
  simp only [temporaryName, String.length_append] at hlength
  have hdot : ".".length = 1 := by decide
  omega

theorem temporaryName_inj {target : String} {m n : Nat}
    (h : temporaryName target m = temporaryName target n) : m = n := by
  simp only [temporaryName, String.append_left_inj, String.append_right_inj] at h
  have hdigits : Nat.toDigits 10 m = Nat.toDigits 10 n := String.ofList_injective h
  rw [← @Nat.ofDigitChars_toDigits 10 m (by omega) (by omega), hdigits,
    Nat.ofDigitChars_toDigits (by omega) (by omega)]

/-- Among one more temporary names than a directory has names, one is free. -/
theorem freshName_spec (taken : List String) (target : String) :
    freshName taken target ∉ taken ∧ freshName taken target ≠ target := by
  simp only [freshName]
  cases hfound : ((List.range (taken.length + 1)).map (temporaryName target)).find?
      fun n => !taken.contains n with
  | none =>
      have hsubset : (List.range (taken.length + 1)).map (temporaryName target) ⊆ taken := by
        intro name hname
        simpa using List.find?_eq_none.1 hfound name hname
      have hnodup : ((List.range (taken.length + 1)).map (temporaryName target)).Nodup :=
        List.nodup_range.map fun _ _ h => temporaryName_inj h
      have hlength := hnodup.length_le_of_subset hsubset
      rw [List.length_map, List.length_range] at hlength
      omega
  | some name =>
      obtain ⟨n, -, rfl⟩ := List.mem_map.1 (List.mem_of_find?_eq_some hfound)
      exact ⟨by simpa using List.find?_some hfound, temporaryName_ne target n⟩

section Beside

variable {ready : FileSystem} {directory : Path} {position : List String}
  {cs : List (String × Entry)} {temporary : String}

/-- A temporary file under a name that is free, with any bytes in it, leaves nothing behind. -/
theorem remove_temporary (hwalk : ready.walk true directory = .entry position (.directory cs))
    (hfree : Assoc.get? temporary cs = none) (bytes : ByteArray) :
    (ready.edit position (Assoc.put temporary (.file bytes))).remove
      (directory.child temporary) = ready := by
  obtain ⟨-, hwalk'⟩ := putAt_file hwalk temporary (fun e he => nomatch hfree.symm.trans he) bytes
  rw [remove_child hwalk', edit_edit]
  exact edit_eq_self (at?_of_walk hwalk) (Assoc.filter_put hfree _)

/-- The states of writing beside a target, said without the paths. -/
theorem writeBeside_eq (target : Path)
    (hwalk : ready.walk true target.parent = .entry position (.directory cs))
    (hfree : Assoc.get? temporary cs = none) (bytes : ByteArray)
    (interruption : Option Interruption) :
    let holding (b : ByteArray) := ready.edit position (Assoc.put temporary (.file b))
    let moved := if target.name = "" ∨ target.name = ".." then .error .busy
      else ready.putAt target (.file bytes)
    writeBeside ready (target.parent.child temporary) target bytes interruption =
      match stopsAt interruption .createTemporary with
      | some _ => ⟨[], some (.interrupted .createTemporary)⟩
      | none =>
        match stopsAt interruption .writeBytes with
        | some n => ⟨[holding .empty, holding (bytes.extract 0 n), ready],
            some (.interrupted .writeBytes)⟩
        | none =>
          match stopsAt interruption .setMode, stopsAt interruption .replace, moved with
          | some _, _, _ => ⟨[holding .empty, holding bytes, ready],
              some (.interrupted .setMode)⟩
          | none, some _, _ => ⟨[holding .empty, holding bytes, ready],
              some (.interrupted .replace)⟩
          | none, none, .error e => ⟨[holding .empty, holding bytes, ready], some (.refused e)⟩
          | none, none, .ok done => ⟨[holding .empty, holding bytes, done], none⟩ := by
  intro holding moved
  obtain ⟨hput, hwalk'⟩ := putAt_file hwalk temporary
    (fun e he => nomatch hfree.symm.trans he) ByteArray.empty
  have hcreated : ready.putAt (target.parent.child temporary) (.file .empty) =
      .ok (holding .empty) := hput
  have hfilled (b : ByteArray) : (holding .empty).putAt (target.parent.child temporary) (.file b) =
      .ok (holding b) := by
    obtain ⟨hput, -⟩ := putAt_file hwalk' temporary
      (by simp [Assoc.get?_put, Entry.isFile]) b
    rw [hput, edit_edit]
    exact congrArg _ (edit_congr (at?_of_walk hwalk) (Assoc.put_put _ _ _ _))
  have hremoved (b : ByteArray) : (holding b).remove (target.parent.child temporary) = ready :=
    remove_temporary hwalk hfree b
  have hmoved : (holding bytes).replaceFile (target.parent.child temporary) target bytes =
      moved := by
    rw [replaceFile, hremoved]
  simp only [writeBeside, hcreated]
  cases stopsAt interruption .createTemporary with
  | some _ => rfl
  | none =>
      cases stopsAt interruption .writeBytes with
      | some n => simp only [hfilled, hremoved]
      | none =>
          simp only [hfilled, hremoved, ByteArray.extract_zero_size]
          exact hmoved ▸ rfl

theorem namesIn_eq (hwalk : ready.walk true directory = .entry position (.directory cs)) :
    ready.namesIn directory = Assoc.keys cs := by
  simp only [namesIn, entry?, hwalk, Option.map_some, Entry.children, Option.getD_some]

theorem get?_freshName (hwalk : ready.walk true directory = .entry position (.directory cs))
    (target : String) : Assoc.get? (freshName (ready.namesIn directory) target) cs = none := by
  rw [namesIn_eq hwalk]
  exact Assoc.get?_eq_none (freshName_spec _ target).1

end Beside

end Exposure.FileSystem
