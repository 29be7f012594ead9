import Exposure.CommandLine.Response
import Exposure.Proofs.Config.Confinement

/-!
Settings that are refused, on the command line. A refusal in words ends a command with an exit code
and the words on the error output; a fault that has none ends the program.
-/
namespace Exposure

open FileSystem Discovery

/-- A repository that is not discovered has nothing generated for it. -/
theorem Generation.run_of_ofRequest {fs : FileSystem} {r : Request} {f : Discovery.Fault}
    (hf : ofRequest fs r = .error f) :
    run fs r none = { fileSystem := fs, result := .error (.discovery f) } := by
  rw [ofRequest] at hf
  rw [run]
  cases hsettle : r.settle fs with
  | error g =>
      rw [hsettle] at hf
      cases hf
      rfl
  | ok settled =>
      rw [hsettle] at hf
      have hconfig : ofConfig fs r.root settled.1 settled.2 = .error f := hf
      simp only [bind, Except.bind, hconfig]

namespace CommandLine

variable {s : Surroundings} {fs : FileSystem} {root : Path} {f : Discovery.Fault}

/-- The repository cannot be discovered as a command needs it. The settings are refused that a
command without a directory asks; or the settings, the search paths or the scan are, where a
repository is discovered to generate its artifact or to verify it. -/
inductive Command.Refused (s : Surroundings) (fs : FileSystem) (root : Path)
    (f : Discovery.Fault) : Command → Prop
  | directory {c : Command} : c.directory? = none → Request.settle fs { root } = .error f →
      Refused s fs root f c
  | generate {given : Option String} {outDir : Option Path} :
      given.mapM (resolve s fs) = .ok outDir → ofRequest fs { root, outDir } = .error f →
      Refused s fs root f (.generate given)
  | verify {given : Option String} {directory : Path} :
      artifactsDirectory s fs root given = .ok directory → fs.isDirectory directory = true →
      ofRequest (fs.makeDirectories s.scratch).1 { root, outDir := some s.scratch } = .error f →
      Refused s fs root f (.verify given)

theorem ofGenerate_of_ofRequest {given : Option String} {outDir : Option Path}
    (hgiven : given.mapM (resolve s fs) = .ok outDir)
    (hf : ofRequest fs { root, outDir } = .error f) :
    Response.ofGenerate s fs root given = .error (.ofDiscovery f) := by
  simp only [Response.ofGenerate, hgiven, Except.mapError, bind, Except.bind,
    Generation.run_of_ofRequest hf]
  rfl

/-- A command goes no further then. -/
theorem Command.Refused.run_eq {c : Command} (h : c.Refused s fs root f) :
    c.run s fs root = .error (.ofDiscovery f) := by
  cases h with
  | directory hdirectory hf =>
      have hartifacts : artifactsDirectory s fs root none = .error (.ofDiscovery f) := by
        rw [artifactsDirectory, hf]
        rfl
      -- The generation settles the request itself; the other commands do it to find the artifact.
      cases c with
      | generate outDir =>
          cases hdirectory
          have hrequest : ofRequest fs { root } = .error f := by
            rw [ofRequest, hf]
            rfl
          exact ofGenerate_of_ofRequest rfl hrequest
      | query pattern given methods ancestors =>
          cases hdirectory
          rw [Command.run, hartifacts]
          rfl
      | validate given =>
          cases hdirectory
          rw [Command.run, hartifacts]
          rfl
      | verify given =>
          cases hdirectory
          rw [Command.run, hartifacts]
          rfl
  | generate hgiven hf => exact ofGenerate_of_ofRequest hgiven hf
  | verify hartifacts hdirectory hf =>
      have hexists := pathExists_of_isDirectory hdirectory
      rw [Command.run, hartifacts]
      simp only [bind, Except.bind, Response.ofVerify, Verification.run, hexists, hdirectory,
        Generation.run_of_ofRequest hf]
      rfl

theorem run_of_refused {i : Invocation} (hroot : resolve s fs i.root = .ok root)
    (h : i.command.Refused s fs root f) :
    (∀ m, f.message? = some m → i.run s fs =
      .ok { exitCode := 2, errors := "error: " ++ m ++ "\n", fileSystem := fs }) ∧
    (f.message? = none → i.run s fs = .error (.discovery f)) := by
  have hrun := h.run_eq
  constructor
  · intro m hm
    simp only [Obstacle.ofDiscovery, Obstacle.ofMessage, hm] at hrun
    simp only [Invocation.run, hroot, bind, Except.bind, hrun]
    rfl
  · intro hm
    simp only [Obstacle.ofDiscovery, Obstacle.ofMessage, hm] at hrun
    simp only [Invocation.run, hroot, bind, Except.bind, hrun]
    rfl

open Config in
/-- What the settings of a repository come to. A file of settings that is refused without words is
no text, or stops at an integer that is too long. An entry that is not relative is refused in words.
An entry that is located, as an output directory or as a search path, is the directory where it is
located, with no link left to follow, if this lies within the root, and refused in words otherwise.
A command that needs what is refused tells the words and has an exit code of its own; the program
ends with a fault just if there are none. -/
theorem settings_outcome (s : Surroundings) (fs : FileSystem) (root : Path) :
    ((∃ e, load fs root = .error e ∧ e.message? = none) ↔
      ∃ bytes, fs.bytes? (root.child fileName) = some bytes ∧
        (String.fromUTF8? bytes = none ∨ ∃ text, String.fromUTF8? bytes = some text ∧
          Toml.ofText text = .error .longInteger)) ∧
    (∀ entry, isRelative entry = false →
      (∃ e, resolveOutputDir fs root entry = .error e ∧ e.message?.isSome = true) ∧
      ∃ e, resolveSearchPaths fs root [entry] = .error e ∧ e.message?.isSome = true) ∧
    (∀ entry above position, isRelative entry = true → Locates fs root entry above position →
      fs.EndsAt (Path.absolute position) position ∧
      resolveOutputDir fs root entry =
        (if above <+: position then .ok (Path.absolute position)
        else .error (.escapes "output_dir" entry)) ∧
      resolveSearchPaths fs root [entry] =
        (if above <+: position then .ok [Path.absolute position]
        else .error (.escapes "search path" entry))) ∧
    ∀ (i : Invocation) f, resolve s fs i.root = .ok root → i.command.Refused s fs root f →
      (∀ m, f.message? = some m → i.run s fs =
        .ok { exitCode := 2, errors := "error: " ++ m ++ "\n", fileSystem := fs }) ∧
      (f.message? = none → i.run s fs = .error (.discovery f)) := by
  refine ⟨load_wordless_iff fs root, fun entry h => ⟨?_, ?_⟩, fun entry above position h hl => ?_,
    fun i f hroot hf => run_of_refused hroot hf⟩
  · exact resolveWithin_of_not_relative fs root "output_dir" h
  · obtain ⟨e, he, hwords⟩ := resolveWithin_of_not_relative fs root "search path" h
    exact ⟨e, by rw [resolveSearchPaths_singleton, he]; rfl, hwords⟩
  · refine ⟨hl.endsAt_absolute h, hl.resolveWithin h "output_dir", ?_⟩
    rw [resolveSearchPaths_singleton, hl.resolveWithin h "search path"]
    split <;> rfl

/-- A repository with a link inside it, and with an output directory that is linked to the directory
above. -/
def linkedRepository : FileSystem :=
  ⟨.directory [("repo", .directory
    [(".expose", .link ".."), ("link", .link "real"), ("real", .directory [])])], []⟩

/-- Where a repository stands. -/
def repositoryRoot : Path := Path.absolute ["repo"]

/-- Surroundings in which nobody has a home directory. -/
def homeless : Surroundings := ⟨fun _ => none, Path.absolute ["tmp"]⟩

theorem endsAt_repositoryRoot : linkedRepository.EndsAt repositoryRoot ["repo"] :=
  ⟨0, .pass (by decide) (by decide) (.done _)⟩

theorem locates_link : Config.Locates linkedRepository repositoryRoot "link/x" ["repo"]
    ["repo", "real", "x"] := by
  have hjoin : (Path.absolute ["repo"]).join (Path.ofString "link/x") =
      Path.absolute ["repo", "link", "x"] := by decide
  have htarget : Leads linkedRepository.root (targetStart ["repo"] "real")
      (Path.ofString "real").parts 0 ["repo", "real"] := by
    rw [targetStart, show Path.ofString "real" = ⟨"", ["real"]⟩ by decide]
    exact .pass (by decide) (by decide) (.done _)
  have hrest : Leads linkedRepository.root ["repo", "real"] ["x"] 0 ["repo", "real", "x"] :=
    .pass (by decide) (by decide) (.done _)
  refine ⟨endsAt_repositoryRoot, by decide, ⟨1, ?_⟩, by decide⟩
  rw [hjoin]
  exact .pass (by decide) (by decide) (.link (by decide) rfl htarget hrest)

theorem locates_expose : Config.Locates linkedRepository repositoryRoot ".expose" ["repo"] [] := by
  have hjoin : (Path.absolute ["repo"]).join (Path.ofString ".expose") =
      Path.absolute ["repo", ".expose"] := by decide
  have htarget : Leads linkedRepository.root (targetStart ["repo"] "..")
      (Path.ofString "..").parts 0 [] := by
    rw [targetStart, show Path.ofString ".." = ⟨"", [".."]⟩ by decide]
    exact .up (.done _)
  refine ⟨endsAt_repositoryRoot, by decide, ⟨1, ?_⟩, by decide⟩
  rw [hjoin]
  exact .pass (by decide) (by decide) (.link (by decide) rfl htarget (.done _))

theorem load_linkedRepository : Config.load linkedRepository repositoryRoot = .ok {} := by
  have hbytes : linkedRepository.bytes? (repositoryRoot.child Config.fileName) = none := by
    simp [bytes?, entry?, walk, walkFrom, linkedRepository, repositoryRoot, Path.child,
      Path.absolute, Path.hasNul, start, Path.isAbsolute, Entry.at?, Entry.children, Assoc.get?,
      Config.fileName]
  rw [Config.load, hbytes]

theorem settings_outcome_linked :
    Config.isRelative "~" = false ∧
    (∃ e, Config.resolveOutputDir linkedRepository repositoryRoot "~" = .error e ∧
      e.message?.isSome = true) ∧
    Config.isRelative "link/x" = true ∧
    Config.Locates linkedRepository repositoryRoot "link/x" ["repo"] ["repo", "real", "x"] ∧
    Config.resolveOutputDir linkedRepository repositoryRoot "link/x" =
      .ok (Path.absolute ["repo", "real", "x"]) ∧
    resolve homeless linkedRepository "/repo" = .ok repositoryRoot ∧
    Request.settle linkedRepository { root := repositoryRoot } =
      .error (.location (.escapes "output_dir" ".expose")) ∧
    Invocation.run homeless linkedRepository { root := "/repo", command := .validate none } =
      .ok { exitCode := 2, fileSystem := linkedRepository,
            errors := "error: output_dir '.expose' escapes the repository root\n" } := by
  obtain ⟨-, hrefused, hlocated, hrun⟩ :=
    settings_outcome homeless linkedRepository repositoryRoot
  have hlink := hlocated "link/x" _ _ (by decide) locates_link
  have hexpose := hlocated ".expose" _ _ (by decide) locates_expose
  have hresolve : resolve homeless linkedRepository "/repo" = .ok repositoryRoot := by
    have hpath : Path.ofString "/repo" = repositoryRoot := by decide
    have hhome : expandHome homeless repositoryRoot = .ok repositoryRoot := rfl
    have hreal : linkedRepository.realPath repositoryRoot = .ok repositoryRoot :=
      endsAt_repositoryRoot.realPath (by decide)
    simp only [resolve, hpath, hhome, bind, Except.bind, hreal, Except.mapError]
  have hsettle : Request.settle linkedRepository { root := repositoryRoot } =
      .error (.location (.escapes "output_dir" ".expose")) := by
    have hescapes := hexpose.2.1
    rw [if_neg (by decide)] at hescapes
    simp only [Request.settle, load_linkedRepository, bind, Except.bind, Except.mapError, hescapes]
  refine ⟨by decide, (hrefused "~" (by decide)).1, by decide, locates_link, ?_, hresolve, hsettle,
    ?_⟩
  · rw [hlink.2.1, if_pos (by decide)]
  · exact (hrun { root := "/repo", command := .validate none } _ hresolve
      (.directory rfl hsettle)).1 _ rfl

/-- A repository in which a link names itself and another one leads outside; the file of settings is
no text. -/
def strayRepository : FileSystem :=
  ⟨.directory [("outside", .directory []), ("repo", .directory
    [("expose.toml", .file ⟨#[0xff]⟩), ("out", .link "../outside"), ("self", .link "self")])], []⟩

theorem endsAt_root_stray : strayRepository.EndsAt repositoryRoot ["repo"] :=
  ⟨0, .pass (by decide) (by decide) (.done _)⟩

theorem realFrom_stray (rest : List String) :
    realFrom strayRepository.root (strayRepository.root.links.length + 1) [] []
      ("repo" :: "self" :: rest) = .error ("repo" :: "self" :: rest) := by
  have hlink : ∀ target, strayRepository.root.at? ["repo"] ≠ some (.link target) :=
    ne_link_of_any (by decide)
  rw [realFrom_of_not_link (by decide) hlink]
  exact realFrom_ownTarget rfl rfl (by decide) (by decide) _ rest

theorem walk_stray {rest : List String} (h : (Path.absolute ("repo" :: rest)).hasNul = false) :
    strayRepository.walk true (Path.absolute ("repo" :: rest)) =
      walkFrom strayRepository.root true linkLimit ["repo"] rest := by
  rw [walk, if_neg (by simp [h]), Path.absolute, start, Path.isAbsolute]
  simp [walkFrom, strayRepository, Entry.at?, Assoc.get?]

theorem realPath_self_stray :
    strayRepository.realPath (Path.absolute ["repo", "self"]) = .error .linkLoop := by
  have hwalk : strayRepository.walk true (Path.absolute ["repo", "self"]) = .loop := by
    rw [walk_stray (by decide)]
    exact walkFrom_ownTarget rfl rfl (by decide) (by decide) _ []
  exact realPath_of_loop (by decide) (realFrom_stray []) hwalk

theorem walk_out_stray :
    strayRepository.walk true (Path.absolute ["repo", "out", "x"]) = .missing := by
  rw [walk_stray (by decide)]
  have htarget : Path.ofString "../outside" = ⟨"", ["..", "outside"]⟩ := by decide
  simp [walkFrom, strayRepository, Entry.at?, Assoc.get?, htarget, Path.isAbsolute, linkLimit,
    Entry.children]

/-- Behind the link that never ends nothing is followed, and two dots take it back. -/
theorem realPath_out_stray :
    strayRepository.realPath (Path.absolute ["repo", "self", "..", "out", "x"]) =
      .ok (Path.absolute ["repo", "out", "x"]) :=
  realPath_of_missing (p := Path.absolute ["repo", "self", "..", "out", "x"]) (by decide)
    (realFrom_stray ["..", "out", "x"]) walk_out_stray

theorem endsAt_out_stray :
    strayRepository.EndsAt (Path.absolute ["repo", "out", "x"]) ["outside", "x"] := by
  have htarget : Leads strayRepository.root (targetStart ["repo"] "../outside")
      (Path.ofString "../outside").parts 0 ["outside"] := by
    rw [targetStart, show Path.ofString "../outside" = ⟨"", ["..", "outside"]⟩ by decide]
    exact .up (.pass (by decide) (by decide) (.done _))
  have hrest : Leads strayRepository.root ["outside"] ["x"] 0 ["outside", "x"] :=
    .pass (by decide) (by decide) (.done _)
  exact ⟨1, .pass (by decide) (by decide) (.link (by decide) rfl htarget hrest)⟩

open Config in
/-- Faults that the settings have no words for, one of which ends the program, and an output
directory that is accepted within the root and leads outside. -/
theorem settings_stray :
    load strayRepository repositoryRoot = .error (.notText (repositoryRoot.child fileName)) ∧
    (LoadError.notText (repositoryRoot.child fileName)).message? = none ∧
    Invocation.run homeless strayRepository { root := "/repo", command := .validate none } =
      .error (.discovery (.config (.notText (repositoryRoot.child fileName)))) ∧
    resolveOutputDir strayRepository repositoryRoot "a\x00b" = .error (.unresolved .nulCharacter) ∧
    resolveSearchPaths strayRepository repositoryRoot ["self"] = .error (.unresolved .linkLoop) ∧
    (∀ reason, (LocationError.unresolved reason).message? = none) ∧
    resolveOutputDir strayRepository repositoryRoot "self/../out/x" =
      .ok (Path.absolute ["repo", "out", "x"]) ∧
    strayRepository.EndsAt repositoryRoot ["repo"] ∧
    strayRepository.EndsAt (Path.absolute ["repo", "out", "x"]) ["outside", "x"] ∧
    ∀ position, strayRepository.EndsAt (Path.absolute ["repo", "out", "x"]) position →
      ¬["repo"] <+: position := by
  have hroot : strayRepository.realPath repositoryRoot = .ok repositoryRoot :=
    endsAt_root_stray.realPath (by decide)
  have hload : load strayRepository repositoryRoot =
      .error (.notText (repositoryRoot.child fileName)) := by
    have hbytes : strayRepository.bytes? (repositoryRoot.child fileName) = some ⟨#[0xff]⟩ := by
      have hnul : (Path.absolute ["repo", "expose.toml"]).hasNul = false := by decide
      rw [bytes?, entry?, show repositoryRoot.child fileName = Path.absolute ["repo", "expose.toml"]
        from rfl, walk_stray hnul]
      simp [walkFrom, strayRepository, Entry.at?, Assoc.get?, Entry.children]
    have htext : String.fromUTF8? ⟨#[0xff]⟩ = none := by decide
    simp only [load, hbytes, htext]
  have hrun :
      Invocation.run homeless strayRepository { root := "/repo", command := .validate none } =
        .error (.discovery (.config (.notText (repositoryRoot.child fileName)))) := by
    have hpath : Path.ofString "/repo" = repositoryRoot := by decide
    have hhome : expandHome homeless repositoryRoot = .ok repositoryRoot := rfl
    have hresolve : resolve homeless strayRepository "/repo" = .ok repositoryRoot := by
      simp only [resolve, hpath, hhome, bind, Except.bind, hroot, Except.mapError]
    have hsettle : Request.settle strayRepository { root := repositoryRoot } =
        .error (.config (.notText (repositoryRoot.child fileName))) := by
      simp only [Request.settle, hload, bind, Except.bind, Except.mapError]
    exact (run_of_refused hresolve (.directory rfl hsettle)).2 rfl
  refine ⟨hload, rfl, hrun, ?_, ?_, fun _ => rfl, ?_, endsAt_root_stray, endsAt_out_stray,
    fun position h => ?_⟩
  · have hnul : (repositoryRoot.join (Path.ofString "a\x00b")).hasNul = true := by decide
    rw [resolveOutputDir, resolveWithin_of_relative (by decide) hroot, realPath, if_pos hnul]
    rfl
  · rw [resolveSearchPaths_singleton, resolveWithin_of_relative (by decide) hroot,
      show repositoryRoot.join (Path.ofString "self") = Path.absolute ["repo", "self"] by decide,
      realPath_self_stray]
    rfl
  · rw [resolveOutputDir, resolveWithin_of_relative (by decide) hroot,
      show repositoryRoot.join (Path.ofString "self/../out/x") =
        Path.absolute ["repo", "self", "..", "out", "x"] by decide, realPath_out_stray]
    rfl
  · rw [h.unique endsAt_out_stray]
    decide

end CommandLine
end Exposure
