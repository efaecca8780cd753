import SchemaStructs.Proofs.Files.Growth
import SchemaStructs.Proofs.Files.Publication
import SchemaStructs.Run.Failure

/-!
# What a failed publication leaves behind

A publication that fails takes nothing away and changes nothing. The staging directory is removed
with all that was written into it, since nothing was written anywhere else. What may be new are
directories above the target, and if the target is refused not even those.
-/

namespace SchemaStructs.Files

/-! ## Resolved paths -/

/-- No component of a path is a dot or two. -/
def Path.NoDots (path : Path) : Prop := ∀ c ∈ path, c ≠ "." ∧ c ≠ ".."

namespace Path.NoDots

variable {path : Path} {components : List String} {c : String}

theorem nil : NoDots [] := by simp [NoDots]

theorem step (h : NoDots path) (hc : c ≠ ".") : NoDots (Path.step path c) := by
  unfold Path.step
  by_cases hdots : c = ".."
  · rw [if_pos (by simpa using hdots)]
    exact fun c' hc' => h c' ((List.dropLast_prefix path).subset hc')
  · rw [if_neg (by simpa using hdots)]
    exact List.forall_mem_append.2 ⟨h, by simpa using ⟨hc, hdots⟩⟩

theorem foldl_step (h : NoDots path) (hcomponents : ∀ c ∈ components, c ≠ ".") :
    NoDots (components.foldl Path.step path) := by
  induction components generalizing path with
  | nil => exact h
  | cons c rest ih =>
    obtain ⟨hc, hrest⟩ := List.forall_mem_cons.1 hcomponents
    exact ih (h.step hc) hrest

end Path.NoDots

theorem Path.utf8ByteSize_text_le {path q : Path} (h : q <+: path) :
    (Path.text q).utf8ByteSize ≤ (Path.text path).utf8ByteSize := by
  obtain ⟨rest, rfl⟩ := h
  have hle : ("/".intercalate q).utf8ByteSize ≤ ("/".intercalate (q ++ rest)).utf8ByteSize := by
    induction q with
    | nil => simp
    | cons c q ih =>
      by_cases hq : q = []
      · by_cases hrest : rest = []
        · simp [hrest]
        · rw [hq, List.singleton_append, String.intercalate_cons_of_ne_nil hrest,
            String.intercalate_singleton, String.append_assoc, String.utf8ByteSize_append]
          omega
      · rw [List.cons_append, String.intercalate_cons_of_ne_nil hq,
          String.intercalate_cons_of_ne_nil (by simp [hq])]
        simp only [String.utf8ByteSize_append]
        omega
  rw [Path.text, Path.text, String.utf8ByteSize_append, String.utf8ByteSize_append]
  omega

theorem Path.isTooLong_initial {path q : Path} (h : q <+: path) (hpath : isTooLong path = false) :
    isTooLong q = false := by
  have hle := Path.utf8ByteSize_text_le h
  simp only [isTooLong, decide_eq_false_iff_not] at hpath ⊢
  omega

/-- The path of a destination, whether it is reached or not. -/
def Destination.path : Destination → Path
  | reached path | loop path => path

namespace FileTree

variable {tree tree' : FileTree} {root directory p : Path} {components : List String} {links : Nat}

theorem noDots_followWith {follow : Path → Path → String → Destination}
    (hfollow : ∀ directory link text, Path.NoDots directory → Path.NoDots link →
      Path.NoDots (follow directory link text).path)
    (hdirectory : Path.NoDots directory) (hcomponents : ∀ c ∈ components, c ≠ ".") :
    Path.NoDots (tree.followWith follow directory components).path := by
  induction components generalizing directory with
  | nil => exact hdirectory
  | cons c rest ih =>
    obtain ⟨hc, hrest⟩ := List.forall_mem_cons.1 hcomponents
    have hnext := hdirectory.step hc
    unfold followWith
    dsimp only
    split
    · exact ih hnext hrest
    split
    · rename_i text _
      have hlink := hfollow directory _ text hdirectory hnext
      split
      · rename_i path hreached
        rw [hreached] at hlink
        exact ih hlink hrest
      · rename_i path hloop
        rw [hloop] at hlink
        exact hlink.foldl_step hrest
    · exact ih hnext hrest

/-- Following links gives a path without dots, whether it leads back to a link or not. -/
theorem noDots_follow {steps : Nat} {following : List Path} (hdirectory : Path.NoDots directory)
    (hcomponents : ∀ c ∈ components, c ≠ ".") :
    Path.NoDots (tree.follow steps following directory components).path := by
  induction steps generalizing following directory components with
  | zero => exact hdirectory.foldl_step hcomponents
  | succ steps ih =>
    refine noDots_followWith (fun directory' link text hdirectory' hlink => ?_) hdirectory
      hcomponents
    split
    · exact hlink
    · refine ih ?_ fun c => ne_dot_of_mem_components
      split
      · exact .nil
      · exact hdirectory'

/-! ## Writing below a directory -/

/-- From `tree` to `tree'` nothing outside of `root` changes, and no link comes to stand in it. -/
structure Confined (tree tree' : FileTree) (root : Path) : Prop where
  noLink : ∀ rest text, tree'.at? (root ++ rest) ≠ some (.link text)
  outside : ∀ p, ¬ root <+: p → tree'.at? p = tree.at? p

namespace Confined

theorem refl (hlinks : ∀ rest text, tree.at? (root ++ rest) ≠ some (.link text)) :
    Confined tree tree root := ⟨hlinks, fun _ _ => rfl⟩

theorem trans {middle : FileTree} (h : Confined tree middle root)
    (h' : Confined middle tree' root) : Confined tree tree' root where
  noLink := h'.noLink
  outside p hp := (h'.outside p hp).trans (h.outside p hp)

theorem put (hlinks : ∀ rest text, tree.at? (root ++ rest) ≠ some (.link text)) (hp : root <+: p)
    (hne : p ≠ []) {e : Entry} (he : ∀ text, e ≠ .link text) :
    Confined tree (Entries.put p e tree) root where
  noLink := by
    intro rest text
    by_cases hrest : root ++ rest = p
    · rw [hrest, at?_put_self hne]
      simpa using he text
    · rw [at?_put_of_ne hrest]
      exact hlinks rest text
  outside := by
    intro q hq
    apply at?_put_of_ne
    rintro rfl
    exact hq hp

end Confined

theorem confined_enterDirectories
    (hlinks : ∀ rest text, tree.at? (root ++ rest) ≠ some (.link text)) (hroot : root <+: directory)
    (hdots : ∀ c ∈ components, c ≠ "..") :
    Confined tree (tree.enterDirectories links directory components).1 root ∧
      ∀ d n, (tree.enterDirectories links directory components).2 = .ok (d, n) → root <+: d := by
  induction components generalizing tree directory with
  | nil =>
    refine ⟨.refl hlinks, fun d n h => ?_⟩
    cases h
    exact hroot
  | cons c rest ih =>
    obtain ⟨hdot, hrest⟩ := List.forall_mem_cons.1 hdots
    have hnext : root <+: directory ++ [c] := hroot.trans (List.prefix_append _ _)
    simp only [enterDirectories, beq_iff_eq, hdot, if_false]
    split
    · split
      · exact ⟨.refl hlinks, fun d n h => by cases h⟩
      · have hput : Confined tree (Entries.put (directory ++ [c]) .directory tree) root :=
          .put hlinks hnext (by simp) (by simp)
        obtain ⟨hconfined, hresult⟩ := ih hput.noLink hnext hrest
        exact ⟨hput.trans hconfined, hresult⟩
    · exact ih hlinks hnext hrest
    · exact ⟨.refl hlinks, fun d n h => by cases h⟩
    · rename_i text hentry
      obtain ⟨below, hbelow⟩ := hnext
      rw [← hbelow] at hentry
      exact absurd hentry (hlinks below text)

theorem confined_makeDirectories (hlinks : ∀ rest text, tree.at? (root ++ rest) ≠ some (.link text))
    (hroot : root <+: directory) (hdots : ∀ c ∈ components, c ≠ "..") :
    Confined tree (tree.makeDirectories directory components).1 root ∧
      ∀ d n, (tree.makeDirectories directory components).2 = .ok (d, n) → root <+: d := by
  unfold makeDirectories
  split
  · exact ⟨.refl hlinks, fun d n h => by cases h⟩
  · split
    · exact ⟨.refl hlinks, fun d n h => by cases h⟩
    · exact confined_enterDirectories hlinks hroot hdots

theorem confined_writeInto (hlinks : ∀ rest text, tree.at? (root ++ rest) ≠ some (.link text))
    (hroot : root <+: directory) {name content : String} (hdot : name ≠ ".") (hdots : name ≠ "..") :
    Confined tree (tree.writeInto links directory name content).1 root := by
  have hname : root <+: directory ++ [name] := hroot.trans (List.prefix_append _ _)
  have hlink : ∀ text, tree.at? (directory ++ [name]) ≠ some (.link text) := by
    obtain ⟨below, hbelow⟩ := hname
    rw [← hbelow]
    exact hlinks below
  unfold writeInto
  split
  · exact .refl hlinks
  · rename_i path n hwalk
    have hplace := walk_singleton hdot hdots hlink hwalk
    split at hplace <;> cases hplace
    exact .put hlinks hname (by simp) (by simp)
  · rename_i path n hwalk
    have hplace := walk_singleton hdot hdots hlink hwalk
    split
    · exact .refl hlinks
    · split at hplace <;> cases hplace
      exact .put hlinks hname (by simp) (by simp)

theorem confined_writeFile (hlinks : ∀ rest text, tree.at? (root ++ rest) ≠ some (.link text))
    (hdots : ∀ c ∈ components, c ≠ "." ∧ c ≠ "..") (content : String) :
    Confined tree (tree.writeFile root components content).1 root := by
  unfold writeFile
  split
  · exact .refl hlinks
  rename_i name hlast
  obtain ⟨parents, rfl⟩ := List.getLast?_eq_some_iff.1 hlast
  rw [List.dropLast_concat]
  obtain ⟨hmade, hresult⟩ := confined_makeDirectories hlinks List.prefix_rfl
    (fun c (hc : c ∈ parents) => (hdots c (by simp [hc])).2)
  generalize tree.makeDirectories root parents = made at hmade hresult
  rcases made with ⟨made, _ | ⟨directory, n⟩⟩
  · exact hmade
  obtain ⟨hdot, hdot'⟩ := hdots name (by simp)
  dsimp only
  split
  · exact hmade
  split
  · exact hmade
  · exact hmade.trans (confined_writeInto hmade.noLink (hresult _ _ rfl) hdot hdot')

end FileTree

namespace Publication

open FileTree

variable {tree tree' : FileTree} {path staging working : Path} {files : FileSet} {target : String}

theorem noDots_of_resolveTarget (hworking : Path.NoDots working)
    (h : resolveTarget tree working target = .ok path) : Path.NoDots path := by
  have hnoDots : Path.NoDots (tree.resolve working target).path := by
    refine noDots_follow ?_ fun c => ne_dot_of_mem_components
    split
    · exact .nil
    · exact hworking
  unfold resolveTarget at h
  split at h
  · cases h
  split at h
  · rename_i hreached
    cases h
    rwa [hreached] at hnoDots
  · rename_i hloop
    rw [hloop] at hnoDots
    split at h
    · cases h
    · cases h
      exact hnoDots

/-! ## Staging that fails -/

/-- A relative name that does not lead to a parent. -/
def IsRelativeName (name : String) : Prop :=
  Path.isAbsolute name = false ∧ ".." ∉ Path.components name

instance (name : String) : Decidable (IsRelativeName name) := inferInstanceAs (Decidable (_ ∧ _))

/-- Writing such files changes nothing outside of the staging directory. -/
theorem confined_stageFiles (hnames : ∀ f ∈ files, IsRelativeName f.1)
    (hlinks : ∀ rest text, tree.at? (staging ++ rest) ≠ some (.link text)) :
    Confined tree (stageFiles staging tree files).1 staging := by
  induction files generalizing tree with
  | nil => exact .refl hlinks
  | cons f rest ih =>
    obtain ⟨⟨hrelative, hdots⟩, hrest⟩ := List.forall_mem_cons.1 hnames
    have hstage : Confined tree (stageFile staging tree f).1 staging := by
      rw [stageFile, fileBase, if_neg (by simp [hrelative])]
      refine confined_writeFile hlinks (fun c hc => ⟨ne_dot_of_mem_components hc, ?_⟩) f.2
      rintro rfl
      exact hdots hc
    unfold stageFiles
    split
    · rename_i middle hmiddle
      rw [hmiddle] at hstage
      exact hstage.trans (ih hrest hstage.noLink)
    · exact hstage

/-- Once the staging directory is removed it is as if it had never been made. -/
theorem at?_remove_staging {written : FileTree} (hne : staging ≠ [])
    (hfree : tree.inside staging = [])
    (hwritten : Confined (Entries.put staging .directory tree) written staging) (p : Path) :
    (written.remove staging).at? p = tree.at? p := by
  by_cases hp : staging <+: p
  · rw [at?_of_inside_eq_nil hfree hne hp]
    refine at?_remove_inside ?_ hp
    rintro rfl
    exact hne (List.prefix_nil.1 hp)
  · rw [at?_remove_outside hp, hwritten.outside p hp]
    apply at?_put_of_ne
    rintro rfl
    exact hp List.prefix_rfl

/-- A new directory has no links in it. -/
theorem ne_link_of_put_staging (hne : staging ≠ []) (hfree : tree.inside staging = []) (rest : Path)
    (text : String) :
    at? (Entries.put staging .directory tree) (staging ++ rest) ≠ some (.link text) := by
  by_cases hrest : rest = []
  · rw [hrest, List.append_nil, at?_put_self hne]
    simp
  · rw [at?_put_of_ne (by simpa using hrest),
      at?_of_inside_eq_nil hfree hne (List.prefix_append _ _)]
    simp

theorem isRelativeName_of_mem_stagedFiles (hnames : ∀ f ∈ files, IsRelativeName f.1) :
    ∀ f ∈ stagedFiles files, IsRelativeName f.1 := by
  intro f hf
  rcases List.mem_append.1 ((perm_stagedFiles files).mem_iff.1 hf) with hf | hf
  · exact hnames f hf
  · obtain rfl := List.mem_singleton.1 hf
    decide

/-- A publication that is reported to fail leaves the tree alone, or nothing but the directories
that were made above the target. -/
theorem publishAt_failed {e : PublicationError} (hnames : ∀ f ∈ files, IsRelativeName f.1)
    (h : publishAt tree path files = (tree', .error e))
    (hwrite : ((Run.Failure.publication e).report?.map (·.kind)) = some .write) :
    (e = .notReplaceable path ∧ tree' = tree) ∨
      (e ≠ .notReplaceable path ∧ isReplaceable tree path = .ok true ∧
        ∀ p, tree'.at? p = (tree.makeDirectories [] path.dropLast).1.at? p) := by
  unfold publishAt at h
  split at h
  · cases h
    cases hwrite
  · cases h
    exact .inl ⟨rfl, rfl⟩
  rename_i hreplaceable
  right
  split at h
  · rename_i made _ hmake
    cases h
    exact ⟨by simp, hreplaceable, fun p => by rw [hmake]⟩
  rename_i made parent links hmake
  rw [hmake]
  dsimp only at h ⊢
  obtain ⟨hfree, -⟩ := inside_freshSuffix made parent (path.getLast?.getD "")
  generalize hstaging : parent ++
    [stagingName _ (freshSuffix made parent (path.getLast?.getD ""))] =
    staging at h hfree
  have hne : staging ≠ [] := by simp [← hstaging]
  have hstage := confined_stageFiles (isRelativeName_of_mem_stagedFiles hnames)
    (ne_link_of_put_staging hne hfree)
  split at h
  · cases h
    exact ⟨by simp, hreplaceable, fun _ => rfl⟩
  split at h
  · cases h
    cases hwrite
  · rename_i failed _ _ hfailed
    cases h
    rw [hfailed] at hstage
    exact ⟨by simp, hreplaceable, at?_remove_staging hne hfree hstage⟩
  rename_i written hwritten
  rw [hwritten] at hstage
  split at h
  · cases h
    exact ⟨by simp, hreplaceable, at?_remove_staging hne hfree hstage⟩
  · cases h

/-! ## What a target that may be replaced tells -/

/-- Whether a target may be replaced is not known if a name on the way to it is too long. -/
theorem find_ne_nameTooLong (h : isReplaceable tree path = .ok true) (p : Path) :
    tree.find path ≠ .error (.nameTooLong p) := by
  intro hfind
  simp [isReplaceable, occupant?, hfind, bind, Except.bind] at h

theorem isTooLong_eq_false (h : isReplaceable tree path = .ok true) :
    Path.isTooLong path = false := by
  by_contra hlong
  exact find_ne_nameTooLong h path (by simp [find, hlong])

theorem shortNames_of_isReplaceable (htree : tree.WellFormed)
    (h : isReplaceable tree path = .ok true) : ShortNames tree maxLinks [] path := by
  rintro q c d n ⟨rest, rfl⟩ harrives hentry
  by_contra hlong
  have hwalk := harrives.walk_append (htree d c hentry) (c :: rest)
  have hdot : c ≠ "." := by
    rintro rfl
    exact hlong (by decide)
  have hdots : c ≠ ".." := by
    rintro rfl
    exact hlong (by decide)
  rw [walk_cons, if_neg hdot, if_neg hdots, if_pos (by simpa using hlong)] at hwalk
  apply find_ne_nameTooLong h (d ++ [c])
  rw [find, isTooLong_eq_false h, if_neg (by simp), List.append_assoc, List.singleton_append, hwalk]
  rfl

/-! ## What is left -/

/-- From `tree` to `tree'` nothing is gone and nothing has changed. All that may be new are
directories that proper ancestors of a path lead to. If the path goes through no link, they are
those ancestors. No entry is left beside the path. -/
structure Kept (tree tree' : FileTree) (path : Path) : Prop where
  same : ∀ p, tree.at? p ≠ none → tree'.at? p = tree.at? p
  new : ∀ p, tree.at? p = none → tree'.at? p ≠ none → tree'.at? p = some .directory ∧
    ∃ q, q <+: path ∧ q ≠ path ∧ tree'.find q = .ok (.occupied p)
  ancestor : tree.Physical path → ∀ p, tree.at? p = none → tree'.at? p ≠ none → p <+: path ∧
    p ≠ path
  beside : ∀ parent, tree'.find path.dropLast = .ok (.occupied parent) →
    ∀ rest, rest ≠ [] → tree'.at? (parent ++ rest) = tree.at? (parent ++ rest)

namespace Kept

theorem refl (tree : FileTree) (path : Path) : Kept tree tree path where
  same _ _ := rfl
  new _ hp hp' := absurd hp hp'
  ancestor _ _ hp hp' := absurd hp hp'
  beside _ _ _ _ := rfl

theorem ne_of_prefix_dropLast {q : Path} (hq : q <+: path.dropLast) (hne : q ≠ []) : q ≠ path := by
  rintro rfl
  have hlength := hq.length_le
  have hpositive := List.length_pos_iff.2 hne
  rw [List.length_dropLast] at hlength
  omega

/-- Making the directories above a path leaves all else alone. -/
theorem of_approaches (htree : tree.WellFormed) (hdots : Path.NoDots path)
    (hlong : Path.isTooLong path = false)
    (h : Approaches tree tree' maxLinks [] path.dropLast) : Kept tree tree' path := by
  have hinitial : path.dropLast <+: path := List.dropLast_prefix path
  have hdots' : ∀ c ∈ path.dropLast, c ≠ "." ∧ c ≠ ".." := fun c hc => hdots c (hinitial.subset hc)
  constructor
  case same => exact h.keeps
  case new =>
    intro p hp hp'
    obtain ⟨hdirectory, q, n, hq, hne, harrives⟩ := h.new p hp hp'
    exact ⟨hdirectory, q, hq.trans hinitial, ne_of_prefix_dropLast hq hne,
      harrives.find_eq (Path.isTooLong_initial (hq.trans hinitial) hlong)⟩
  case ancestor =>
    intro hphysical p hp hp'
    obtain ⟨hq, hne⟩ :=
      h.isPrefix hdots' (fun q hq => hphysical.noLink q (hq.trans hinitial)) hp hp'
    exact ⟨hq.trans hinitial, ne_of_prefix_dropLast hq hne⟩
  case beside =>
    intro parent hparent rest hrest
    rw [find, Path.isTooLong_initial hinitial hlong, if_neg (by simp)] at hparent
    obtain ⟨⟨place, n⟩, hwalk, rfl⟩ : ∃ r, tree'.walk maxLinks [] path.dropLast = .ok r ∧
        r.1 = .occupied parent := by
      cases hwalk : tree'.walk maxLinks [] path.dropLast with
      | error => simp [hwalk, Except.map] at hparent
      | ok r => exact ⟨r, rfl, by simpa [hwalk, Except.map] using hparent⟩
    exact h.beside htree hdots' (arrives_of_walk hwalk) hrest

end Kept

end Publication

open FileTree Publication

variable {tree tree' : FileTree} {working : Path} {files : FileSet} {target : String}
  {e : PublicationError}

/-- A publication that is reported to fail keeps everything that was there, and leaves nothing new
but directories above the target. A target that is refused leaves the tree as it was. -/
theorem publish_failed_kept (htree : tree.WellFormed) (hworking : Path.NoDots working)
    (hnames : ∀ f ∈ files, IsRelativeName f.1)
    (h : publish tree working target files = (tree', .error e))
    (hwrite : ((Run.Failure.publication e).report?.map (·.kind)) = some .write) :
    ∃ path, resolveTarget tree working target = .ok path ∧ Kept tree tree' path ∧
      (e = .notReplaceable path → tree' = tree) := by
  unfold publish at h
  split at h
  · rename_i hresolve
    cases h
    unfold resolveTarget at hresolve
    -- A target that stands for no path fails in a way that is not reported.
    split at hresolve
    · cases hresolve
      cases hwrite
    split at hresolve
    · cases hresolve
    split at hresolve
    · cases hresolve
      cases hwrite
    · cases hresolve
  rename_i path hresolve
  refine ⟨path, hresolve, ?_⟩
  split at h
  · rename_i hpublish
    cases h
    rcases publishAt_failed hnames hpublish hwrite with ⟨-, rfl⟩ | ⟨hne, hreplaceable, hsame⟩
    · exact ⟨.refl _ _, fun _ => rfl⟩
    have hdots := noDots_of_resolveTarget hworking hresolve
    have hinitial := List.dropLast_prefix path
    have hshort : ShortNames tree maxLinks [] path.dropLast :=
      .initial (shortNames_of_isReplaceable htree hreplaceable) hinitial
    have hmade := approaches_makeDirectories htree (at?_nil tree)
      (fun c hc => hdots c (hinitial.subset hc)) hshort
    exact ⟨.of_approaches htree hdots (isTooLong_eq_false hreplaceable) (hmade.congr hsame),
      fun he => absurd he hne⟩
  · cases h

/-- Through the link leads the way to a directory that is missing. -/
def linkedData : FileTree :=
  [(["data"], .directory), (["data", "rust"], .directory),
    (["data", "rust", markerName], .file markerText),
    (["data", "rust", "users.rs"], .file "pub struct User;\n"),
    (["work"], .directory), (["work", "out"], .link "../data")]

/-- Two names that exclude each other. -/
def conflictingFiles : FileSet := [("a.rs", "pub struct A;\n"), ("a.rs/b.rs", "pub struct B;\n")]

theorem linkedData_publish_failed_kept :
    linkedData.WellFormed ∧ Path.NoDots ["work"] ∧ (∀ f ∈ conflictingFiles, IsRelativeName f.1) ∧
      ∃ tree' e, publish linkedData ["work"] "out/deep/rust" conflictingFiles = (tree', .error e) ∧
        e = .notWritten ["data", "deep", "rust"] ∧ tree'.at? ["data", "deep"] = some .directory ∧
        Kept linkedData tree' ["data", "deep", "rust"] ∧
      ∃ refused, publish linkedData ["work"] "out" conflictingFiles =
        (linkedData, .error refused) ∧ refused = .notReplaceable ["data"] := by
  have hwellFormed : linkedData.WellFormed := by decide +kernel
  have hdots : Path.NoDots ["work"] := by simp [Path.NoDots]
  have hnames : ∀ f ∈ conflictingFiles, IsRelativeName f.1 := by decide +kernel
  have hpair : ∀ (run : FileTree × Except PublicationError (List Path)) (e : PublicationError),
      run.2 = .error e → run = (run.1, .error e) := by
    rintro ⟨tree', result⟩ e rfl
    rfl
  have hdeep : (publish linkedData ["work"] "out/deep/rust" conflictingFiles).2 =
      .error (.notWritten ["data", "deep", "rust"]) := by decide +kernel
  have hrefused : (publish linkedData ["work"] "out" conflictingFiles).2 =
      .error (.notReplaceable ["data"]) := by decide +kernel
  obtain ⟨path, hpath, hkept, -⟩ :=
    publish_failed_kept hwellFormed hdots hnames (hpair _ _ hdeep) rfl
  obtain ⟨path', hpath', -, hsame⟩ :=
    publish_failed_kept hwellFormed hdots hnames (hpair _ _ hrefused) rfl
  have hresolve : resolveTarget linkedData ["work"] "out/deep/rust" =
      .ok ["data", "deep", "rust"] := by
    decide +kernel
  have hresolve' : resolveTarget linkedData ["work"] "out" = .ok ["data"] := by decide +kernel
  obtain rfl : ["data", "deep", "rust"] = path := by simpa [hresolve] using hpath
  obtain rfl : ["data"] = path' := by simpa [hresolve'] using hpath'
  refine ⟨hwellFormed, hdots, hnames, _, _, hpair _ _ hdeep, rfl, by decide +kernel, hkept, _,
    ?_, rfl⟩
  rw [hpair _ _ hrefused, hsame rfl]

end SchemaStructs.Files
