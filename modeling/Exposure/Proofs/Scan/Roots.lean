import Exposure.Proofs.Scan.Below
import Exposure.Scan.Tree
import Mathlib.Data.List.Pairwise

/-!
The scan of several search roots. Each root has its group of files, in the order of the roots: those
that qualify under it and that no earlier root has under any path. Two files of a scan never have
the same real path, and the order in which directories list their entries does not show.
-/
namespace Exposure

open Scan FileSystem

namespace SourceTree

variable {fs fs' : FileSystem}

theorem filesUnder_eq (t : SourceTree) (pattern : String) (roots : List Path) :
    t.filesUnder fs pattern roots =
      ((roots.filter fs.isDirectory).mapM
        (filesBelow fs pattern t.filters t.nestedIgnore)).map fun found =>
          keepNew fs [] found.flatten := rfl

/-- The real path of a file that the scan reaches is the place that the scan knows it by. -/
theorem realPath_of_reached (h : fs.root.WellFormed) {f : SourceFile} (hf : Reached fs f) :
    ∃ place, realParts fs f = some place ∧ fs.realPath f.path = .ok (Path.absolute place) := by
  obtain ⟨-, position, bytes, hposition, hfile⟩ := id hf
  obtain ⟨hnul, -, n, hroot⟩ := leads_of_directoryPosition? hposition
  have hbelow := (straight_of_at? h hfile rfl).leads
  have hnulPath : f.path.hasNul = false := hasNul_below hnul (named_of_reached h hf).names
  refine ⟨position ++ f.parts, by rw [realParts, hposition]; rfl, ?_⟩
  exact realPath_of_leads hnulPath (hroot.append hbelow)

theorem realPath_eq_iff (h : fs.root.WellFormed) {f g : SourceFile} (hf : Reached fs f)
    (hg : Reached fs g) :
    fs.realPath f.path = fs.realPath g.path ↔ realParts fs f = realParts fs g := by
  obtain ⟨p, hp, hpath⟩ := realPath_of_reached h hf
  obtain ⟨q, hq, hqath⟩ := realPath_of_reached h hg
  rw [hp, hq, hpath, hqath]
  simp [Path.absolute]

/-- Files below one root that have different paths lie in different places. -/
theorem realParts_ne {root : Path} {f g : SourceFile} (hf : Reached fs f)
    (hroot : f.searchRoot = root) (hroot' : g.searchRoot = root)
    (hne : f.relativePath ≠ g.relativePath) : realParts fs f ≠ realParts fs g := by
  obtain ⟨-, position, bytes, hposition, -⟩ := hf
  rw [hroot] at hposition
  intro heq
  rw [realParts, realParts, hroot, hroot', hposition] at heq
  have hparts : f.parts = g.parts := List.append_cancel_left (Option.some.inj heq)
  exact hne (by rw [SourceFile.relativePath, SourceFile.relativePath, hparts])

theorem keepNew_congr {seen seen' : List (Option (List String))}
    (h : ∀ place, place ∈ seen ↔ place ∈ seen') (files : List SourceFile) :
    keepNew fs seen files = keepNew fs seen' files := by
  induction files generalizing seen seen' with
  | nil => rfl
  | cons f files ih =>
      have hcons : ∀ place, place ∈ realParts fs f :: seen ↔ place ∈ realParts fs f :: seen' := by
        intro place
        rw [List.mem_cons, List.mem_cons, h]
      simp only [keepNew, List.contains_iff_mem, h]
      rw [ih h, ih hcons]

/-- What comes later is held against all that came before, kept or not. -/
theorem keepNew_append (seen : List (Option (List String))) (files more : List SourceFile) :
    keepNew fs seen (files ++ more) =
      keepNew fs seen files ++ keepNew fs (files.map (realParts fs) ++ seen) more := by
  induction files generalizing seen with
  | nil => rfl
  | cons f files ih =>
      simp only [List.cons_append, keepNew, List.map_cons]
      split
      · rename_i hseen
        rw [List.contains_iff_mem] at hseen
        rw [ih]
        refine congrArg _ (keepNew_congr (fun place => ?_) more)
        simp only [List.mem_append, List.mem_cons]
        constructor
        · exact .inr
        · rintro (rfl | hplace)
          · exact .inr hseen
          · exact hplace
      · rw [ih, List.cons_append]
        refine congrArg _ (congrArg _ (keepNew_congr (fun place => ?_) more))
        simp only [List.mem_append, List.mem_cons]
        exact or_left_comm

theorem keepNew_eq_filter {files : List SourceFile}
    (h : files.Pairwise fun f g => realParts fs f ≠ realParts fs g)
    (seen : List (Option (List String))) :
    keepNew fs seen files = files.filter fun f => realParts fs f ∉ seen := by
  induction files generalizing seen with
  | nil => rfl
  | cons f files ih =>
      obtain ⟨hf, hfiles⟩ := List.pairwise_cons.1 h
      simp only [keepNew, List.contains_iff_mem, List.filter_cons, ih hfiles]
      by_cases hseen : realParts fs f ∈ seen
      · simp [hseen]
      · simp only [hseen, not_false_eq_true, decide_true, if_true, if_false]
        refine congrArg _ (List.filter_congr fun g hg => ?_)
        simp [(hf g hg).symm]

/-- What is kept comes from the files, from places that were not taken and that differ. -/
theorem keepNew_distinct (seen : List (Option (List String))) (files : List SourceFile) :
    (∀ f ∈ keepNew fs seen files, f ∈ files ∧ realParts fs f ∉ seen) ∧
      (keepNew fs seen files).Pairwise fun f g => realParts fs f ≠ realParts fs g := by
  induction files generalizing seen with
  | nil => exact ⟨fun _ hf => absurd hf List.not_mem_nil, List.Pairwise.nil⟩
  | cons f files ih =>
      rw [keepNew]
      split
      · exact ⟨fun g hg => ⟨by simp [((ih seen).1 g hg).1], ((ih seen).1 g hg).2⟩, (ih seen).2⟩
      · rename_i hseen
        rw [List.contains_iff_mem] at hseen
        obtain ⟨hmem, hpairwise⟩ := ih (realParts fs f :: seen)
        refine ⟨List.forall_mem_cons.2 ⟨⟨by simp, hseen⟩, fun g hg => ?_⟩,
          List.pairwise_cons.2 ⟨fun g hg => ?_, hpairwise⟩⟩
        · exact ⟨by simp [(hmem g hg).1], fun h => (hmem g hg).2 (by simp [h])⟩
        · exact fun h => (hmem g hg).2 (by simp [h])

theorem keepNew_eq {files : List SourceFile} (h : ∀ f ∈ files, realParts fs' f = realParts fs f)
    (seen : List (Option (List String))) : keepNew fs' seen files = keepNew fs seen files := by
  induction files generalizing seen with
  | nil => rfl
  | cons f files ih =>
      obtain ⟨hf, hfiles⟩ := List.forall_mem_cons.1 h
      simp only [keepNew, hf, ih hfiles]

theorem realParts_relisted (hr : Relisted fs fs') (f : SourceFile) :
    realParts fs' f = realParts fs f := by
  rw [realParts, realParts, hr.directoryPosition?]

section Groups

variable {found : Path → List SourceFile}

/-- The new files of each root, where `seen` holds the places that are taken already. -/
def groupsFrom (fs : FileSystem) (found : Path → List SourceFile)
    (seen : List (Option (List String))) : List Path → List (List SourceFile)
  | [] => []
  | r :: roots =>
    ((found r).filter fun f => realParts fs f ∉ seen) ::
      groupsFrom fs found ((found r).map (realParts fs) ++ seen) roots

theorem keepNew_flatMap {roots : List Path}
    (h : ∀ r ∈ roots, (found r).Pairwise fun f g => realParts fs f ≠ realParts fs g)
    (seen : List (Option (List String))) :
    keepNew fs seen (roots.flatMap found) = (groupsFrom fs found seen roots).flatten := by
  induction roots generalizing seen with
  | nil => rfl
  | cons r roots ih =>
      rw [List.flatMap_cons, keepNew_append, keepNew_eq_filter (h r (by simp)),
        ih fun x hx => h x (by simp [hx])]
      rfl

theorem length_groupsFrom (seen : List (Option (List String))) (roots : List Path) :
    (groupsFrom fs found seen roots).length = roots.length := by
  induction roots generalizing seen with
  | nil => rfl
  | cons r roots ih => rw [groupsFrom, List.length_cons, List.length_cons, ih]

theorem getElem?_groupsFrom {roots : List Path} {i : Nat} {r : Path} (hr : roots[i]? = some r)
    (seen : List (Option (List String))) :
    ∃ group, (groupsFrom fs found seen roots)[i]? = some group ∧
      group.Sublist (found r) ∧
      ∀ f, f ∈ group ↔ f ∈ found r ∧ realParts fs f ∉ seen ∧
        ∀ q ∈ roots.take i, ∀ g ∈ found q, realParts fs g ≠ realParts fs f := by
  induction roots generalizing i seen with
  | nil => cases hr
  | cons first roots ih =>
      cases i with
      | zero =>
          cases hr
          exact ⟨_, rfl, List.filter_sublist, fun f => by simp⟩
      | succ i =>
          obtain ⟨group, hgroup, hsub, hmem⟩ := ih hr ((found first).map (realParts fs) ++ seen)
          refine ⟨group, hgroup, hsub, fun f => ?_⟩
          rw [hmem, List.take_succ_cons, List.forall_mem_cons, List.mem_append, not_or,
            List.mem_map, not_exists]
          simp only [not_and, ne_eq]
          tauto

end Groups

section Under

variable (t : SourceTree) (readers : Readers) (fs : FileSystem) (pattern : String)

/-- The files that the scan of one root yields; a root that is no directory has none. -/
def filesOf (root : Path) : List SourceFile :=
  if fs.isDirectory root then
    (filesBelowBy readers fs pattern t.filters t.nestedIgnore root).toOption.getD []
  else []

theorem filesUnderBy_eq_ok {roots : List Path} {files : List SourceFile} :
    t.filesUnderBy readers fs pattern roots = .ok files ↔
      (∀ r ∈ roots, fs.isDirectory r = true →
        ∃ found, filesBelowBy readers fs pattern t.filters t.nestedIgnore r = .ok found) ∧
      files = keepNew fs [] (roots.flatMap (t.filesOf readers fs pattern)) := by
  have hflatten : ((roots.filter fs.isDirectory).map fun r =>
        (filesBelowBy readers fs pattern t.filters t.nestedIgnore r).toOption.getD []).flatten =
      roots.flatMap (t.filesOf readers fs pattern) := by
    induction roots with
    | nil => rfl
    | cons r roots ih =>
        rw [List.flatMap_cons, ← ih, filesOf, List.filter_cons]
        split <;> rfl
  rw [filesUnderBy, bind_eq_ok]
  simp only [mapM_eq_ok [], List.mem_filter, and_imp]
  constructor
  · rintro ⟨found, ⟨hfound, rfl⟩, heq⟩
    cases heq
    exact ⟨hfound, by rw [hflatten]⟩
  · rintro ⟨hfound, rfl⟩
    exact ⟨_, ⟨hfound, rfl⟩, by rw [hflatten]; rfl⟩

variable {t readers fs pattern}

/-- What a root yields are the files that qualify under it. -/
theorem filesOf_spec (h : fs.root.WellFormed) {root : Path}
    (hok : fs.isDirectory root = true →
      ∃ found, filesBelowBy readers fs pattern t.filters t.nestedIgnore root = .ok found) :
    (∀ f, f ∈ t.filesOf readers fs pattern root ↔
      f.searchRoot = root ∧ Qualifies readers fs pattern t.filters t.nestedIgnore f) ∧
    (t.filesOf readers fs pattern root).Pairwise fun f g => f.relativePath < g.relativePath := by
  unfold filesOf
  cases hdirectory : fs.isDirectory root with
  | true =>
      obtain ⟨found, hfound⟩ := hok hdirectory
      rw [if_pos rfl, hfound]
      exact (filesBelowBy_spec h).2 found hfound
  | false =>
      refine ⟨fun f => ⟨fun hf => absurd hf List.not_mem_nil, ?_⟩, List.Pairwise.nil⟩
      rintro ⟨rfl, hf⟩
      obtain ⟨-, position, bytes, hposition, -⟩ := hf.reached
      rw [isDirectory_eq, hposition] at hdirectory
      cases hdirectory

/-- Below one root no two files lie in the same place. -/
theorem filesOf_places (h : fs.root.WellFormed) {root : Path}
    (hok : fs.isDirectory root = true →
      ∃ found, filesBelowBy readers fs pattern t.filters t.nestedIgnore root = .ok found) :
    (t.filesOf readers fs pattern root).Pairwise fun f g => realParts fs f ≠ realParts fs g := by
  obtain ⟨hmem, horder⟩ := filesOf_spec h hok
  refine horder.imp_of_mem fun {f g} hf hg hlt => ?_
  obtain ⟨hroot, hqualifies⟩ := (hmem f).1 hf
  exact realParts_ne hqualifies.reached hroot ((hmem g).1 hg).1 (ne_of_lt hlt)

/-- In what order directories list their entries does not matter. -/
theorem filesUnderBy_relisted {fs' : FileSystem} (h : fs.root.WellFormed)
    (h' : fs'.root.WellFormed) (hr : Relisted fs fs') {roots : List Path}
    {files : List SourceFile} :
    t.filesUnderBy readers fs' pattern roots = .ok files ↔
      t.filesUnderBy readers fs pattern roots = .ok files := by
  have hbelow (r : Path) := toOption_congr fun found => @filesBelowBy_relisted fs fs' h h' hr
    readers pattern t.filters t.nestedIgnore r found
  have hfound : t.filesOf readers fs' pattern = t.filesOf readers fs pattern := by
    funext r
    rw [filesOf, filesOf, hr.isDirectory, hbelow]
  rw [filesUnderBy_eq_ok, filesUnderBy_eq_ok, hfound,
    keepNew_eq fun f _ => realParts_relisted hr f]
  simp only [hr.isDirectory, filesBelowBy_relisted h h' hr]

theorem filesUnder_relisted {fs' : FileSystem} (h : fs.root.WellFormed)
    (h' : fs'.root.WellFormed) (hr : Relisted fs fs') {roots : List Path} :
    t.filesUnder fs' pattern roots = t.filesUnder fs pattern roots := by
  have hdirectory : fs'.isDirectory = fs.isDirectory := funext hr.isDirectory
  have hbelow : filesBelowBy .standard fs' pattern t.filters t.nestedIgnore =
      filesBelowBy .standard fs pattern t.filters t.nestedIgnore :=
    funext fun r => filesBelow_relisted h h' hr pattern t.filters t.nestedIgnore r
  rw [filesUnder, filesUnder, filesUnderBy, filesUnderBy, hdirectory, hbelow]
  simp only [keepNew_eq fun f _ => realParts_relisted hr f]

/-- Scanning search roots, whatever the pattern and the ignore files stand for, succeeds just if
nothing keeps those roots that are directories from being scanned. Then every root has its group:
the files that qualify under it and whose real path no file has that qualifies under an earlier
root, in the strict order of their paths. No real path comes up twice, and nothing changes if
directories list their entries in another order. With rules for ignore files this is so of the
failures, too. -/
theorem filesUnder_spec (readers : Readers) (t : SourceTree) (fs : FileSystem) (pattern : String)
    (roots : List Path) (h : fs.root.WellFormed) :
    ((∀ r ∈ roots, fs.isDirectory r = true →
        Scannable readers fs pattern t.filters t.nestedIgnore r) ↔
      ∃ files, t.filesUnderBy readers fs pattern roots = .ok files) ∧
    (∀ files, t.filesUnderBy readers fs pattern roots = .ok files →
      (∃ groups : List (List SourceFile), files = groups.flatten ∧ groups.length = roots.length ∧
        ∀ i r, roots[i]? = some r → ∃ group, groups[i]? = some group ∧
          (∀ f, f ∈ group ↔
            f.searchRoot = r ∧ Qualifies readers fs pattern t.filters t.nestedIgnore f ∧
              ∀ g, g.searchRoot ∈ roots.take i →
                Qualifies readers fs pattern t.filters t.nestedIgnore g →
                fs.realPath g.path ≠ fs.realPath f.path) ∧
          group.Pairwise fun f g => f.relativePath < g.relativePath) ∧
      (∀ f ∈ files, ∃ place, fs.realPath f.path = .ok place) ∧
      files.Pairwise fun f g => fs.realPath f.path ≠ fs.realPath g.path) ∧
    (∀ fs' : FileSystem, fs'.root.WellFormed → Relisted fs fs' → ∀ files,
      t.filesUnderBy readers fs' pattern roots = .ok files ↔
        t.filesUnderBy readers fs pattern roots = .ok files) ∧
    ∀ fs' : FileSystem, fs'.root.WellFormed → Relisted fs fs' →
      t.filesUnder fs' pattern roots = t.filesUnder fs pattern roots := by
  refine ⟨?_, fun files hfiles => ?_, fun fs' h' hr files => ?_, fun fs' h' hr => ?_⟩
  · simp only [filesUnderBy_eq_ok, exists_and_left, exists_eq, and_true, (filesBelowBy_spec h).1]
  · obtain ⟨hfound, rfl⟩ := (filesUnderBy_eq_ok t readers fs pattern).1 hfiles
    have hspec {r : Path} (hr : r ∈ roots) := filesOf_spec h (hfound r hr)
    have hreached : ∀ f ∈ keepNew fs [] (roots.flatMap (t.filesOf readers fs pattern)),
        Reached fs f := by
      intro f hf
      obtain ⟨r, hr, hfr⟩ := List.mem_flatMap.1 ((keepNew_distinct [] _).1 f hf).1
      exact (((hspec hr).1 f).1 hfr).2.reached
    refine ⟨⟨groupsFrom fs (t.filesOf readers fs pattern) [] roots,
      keepNew_flatMap (fun r hr => filesOf_places h (hfound r hr)) [],
      length_groupsFrom [] roots, fun i r hr => ?_⟩, fun f hf => ?_, ?_⟩
    · obtain ⟨group, hgroup, hsub, hmem⟩ := @getElem?_groupsFrom fs _ _ _ _ hr []
      obtain ⟨hfiles, horder⟩ := hspec (List.mem_of_getElem? hr)
      refine ⟨group, hgroup, fun f => ?_, horder.sublist hsub⟩
      rw [hmem, hfiles, and_assoc]
      refine and_congr_right fun hroot => and_congr_right fun hf => ?_
      constructor
      · rintro ⟨-, hnew⟩ g hg hqualifies
        have hgq := ((hspec (List.mem_of_mem_take hg)).1 g).2 ⟨rfl, hqualifies⟩
        exact fun heq =>
          hnew _ hg g hgq ((realPath_eq_iff h hqualifies.reached hf.reached).1 heq)
      · refine fun hnew => ⟨List.not_mem_nil, fun q hq g hg => ?_⟩
        obtain ⟨rfl, hqualifies⟩ := ((hspec (List.mem_of_mem_take hq)).1 g).1 hg
        exact fun heq =>
          hnew g hq hqualifies ((realPath_eq_iff h hqualifies.reached hf.reached).2 heq)
    · obtain ⟨place, -, hplace⟩ := realPath_of_reached h (hreached f hf)
      exact ⟨_, hplace⟩
    · refine (keepNew_distinct [] _).2.imp_of_mem fun {f g} hf hg hne heq => hne ?_
      exact (realPath_eq_iff h (hreached f hf) (hreached g hg)).1 heq
  · exact filesUnderBy_relisted h h' hr
  · exact filesUnder_relisted h h' hr

end Under

/-- What the top directory of a repository lists: a link to a directory and this directory. -/
def linkedListing : List (String × Entry) := [
  ("link", .link "app"),
  ("app", .directory [("log.py", .file .empty), ("note.txt", .file .empty), ("up", .link "..")])]

def linkedTree : FileSystem := ⟨.directory linkedListing, []⟩

/-- A linked root, one that is missing and one that has the same files as the first. -/
def linkedRoots : List Path :=
  [Path.absolute ["link"], Path.absolute ["none"], Path.absolute ["app"]]

theorem wellFormed_linkedTree : linkedTree.root.WellFormed ∧
    (Entry.directory linkedListing.reverse).WellFormed := by
  have hinner : (Entry.directory [("log.py", .file .empty), ("note.txt", .file .empty),
      ("up", .link "..")]).WellFormed := by
    refine Entry.wellFormed_directory (by decide) (by decide) ?_
    simp [Entry.wellFormed_file, Entry.wellFormed_link]
  constructor <;>
    exact Entry.wellFormed_directory (by decide) (by decide)
      (by simp [linkedListing, Entry.wellFormed_link, hinner])

/-- No root has an ignore file. -/
theorem ignoreTest_linkedTree {r : Path} (hr : r ∈ linkedRoots) :
    ignoreTest Ignore.readRules linkedTree false r = .ok fun _ => .ok false := by
  have htarget : Path.ofString "app" = ⟨"", ["app"]⟩ := by decide +kernel
  have hbytes : ∀ r ∈ linkedRoots, linkedTree.bytes? (r.child Ignore.fileName) = none := by
    simp [linkedRoots, linkedTree, linkedListing, bytes?, entry?, walk, walkFrom, start,
      linkLimit, Path.hasNul, Path.child, Path.absolute, Path.isAbsolute, Ignore.fileName,
      Entry.at?, Entry.children, Assoc.get?, htarget]
  simp only [ignoreTest, ignoreFile?, hbytes r hr]
  rfl

/-- The linked root and the last one are the same directory. -/
theorem position_linkedTree :
    linkedTree.directoryPosition? (Path.absolute ["link"]) = some ["app"] ∧
      linkedTree.directoryPosition? (Path.absolute ["app"]) = some ["app"] := by
  have htarget : Path.ofString "app" = ⟨"", ["app"]⟩ := by decide +kernel
  refine ⟨?_, directoryPosition?_absolute (by decide) rfl⟩
  simp [linkedTree, linkedListing, FileSystem.directoryPosition?, walk, walkFrom, start,
    linkLimit, Path.hasNul, Path.absolute, Path.isAbsolute, Entry.at?, Entry.children, Assoc.get?,
    htarget, Entry.isDirectory]

theorem filesUnder_spec_linked :
    linkedTree.root.WellFormed ∧
    ∃ files, filesUnderBy { roots := [] } .standard linkedTree "y" linkedRoots = .ok files ∧
      ⟨Path.absolute ["link"], ["log.py"]⟩ ∈ files ∧
      ⟨Path.absolute ["app"], ["log.py"]⟩ ∉ files ∧
      filesUnder { roots := [] } ⟨.directory linkedListing.reverse, []⟩ "y" linkedRoots =
        .ok files := by
  obtain ⟨hwell, hwell'⟩ := wellFormed_linkedTree
  have hrelisted : Relisted linkedTree ⟨.directory linkedListing.reverse, []⟩ :=
    relisted_of_perm (by decide) linkedListing.reverse_perm []
  have hpattern : ((Pattern.parse? { ignoreCase := true } "y").any
      fun r => r.occursIn "log.py") = true := by decide +kernel
  obtain ⟨regex, hregex, hname⟩ := (Option.any_eq_true _ _).1 hpattern
  obtain ⟨hlinked, happ⟩ := position_linkedTree
  have hpattern := standard_pattern hregex
  have hqualifies :
      Qualifies .standard linkedTree "y" {} false ⟨Path.absolute ["link"], ["log.py"]⟩ :=
    ⟨⟨by decide, ["app"], .empty, hlinked, rfl⟩, ⟨_, hpattern, hname⟩, .inr (by decide),
      ⟨_, ignoreTest_linkedTree (by decide), rfl⟩, .inl rfl,
      fun _ hglob => absurd hglob List.not_mem_nil⟩
  obtain ⟨hscannable, hspec, -, horder⟩ :=
    filesUnder_spec .standard { roots := [] } linkedTree "y" linkedRoots hwell
  obtain ⟨files, hfiles⟩ := hscannable.1 fun r hr _ =>
    ⟨_, _, hpattern, ignoreTest_linkedTree hr, fun _ _ _ _ _ => ⟨false, rfl⟩⟩
  obtain ⟨⟨groups, hgroups, -, hgroup⟩, -, hdistinct⟩ := hspec files hfiles
  obtain ⟨group, hfirst, hmem, -⟩ := hgroup 0 _ rfl
  have hin : (⟨Path.absolute ["link"], ["log.py"]⟩ : SourceFile) ∈ files := by
    rw [hgroups]
    exact List.mem_flatten.2 ⟨group, List.mem_of_getElem? hfirst,
      (hmem _).2 ⟨rfl, hqualifies, fun _ hg => absurd hg List.not_mem_nil⟩⟩
  have hsame : linkedTree.realPath (SourceFile.path ⟨Path.absolute ["link"], ["log.py"]⟩) =
      linkedTree.realPath (SourceFile.path ⟨Path.absolute ["app"], ["log.py"]⟩) := by
    refine (realPath_eq_iff hwell hqualifies.reached
      ⟨by decide, ["app"], .empty, happ, rfl⟩).2 ?_
    rw [realParts, realParts, hlinked, happ]
  refine ⟨hwell, files, hfiles, hin, fun hout => ?_, ?_⟩
  · have : Std.Symm fun f g : SourceFile => linkedTree.realPath f.path ≠
        linkedTree.realPath g.path := ⟨fun _ _ h => h.symm⟩
    exact hdistinct.forall hin hout (by decide) hsame
  · exact (horder _ hwell' hrelisted).trans hfiles

end SourceTree
end Exposure
