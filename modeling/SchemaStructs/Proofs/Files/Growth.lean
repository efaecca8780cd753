import SchemaStructs.Proofs.Files.Creation

/-!
# Trees that grow by directories

Making directories takes nothing away, whether it succeeds or not. What it adds are directories that
the path, gone along as far as it was made, leads to; links on the way are followed.
-/

namespace SchemaStructs.Files.FileTree

variable {tree tree' : FileTree} {directory p : Path} {components : List String} {links n : Nat}

/-! ## Ways through a tree -/

/-- A component that names an entry of a directory. -/
structure IsEntryName (c : String) : Prop where
  ne_dot : c ≠ "."
  ne_dots : c ≠ ".."
  short : Path.isTooLongName c = false

/-- The components lead from a directory, through `links` links at most, to what stands at `p`; then
`n` links are left. -/
inductive Arrives (tree : FileTree) : Nat → Path → List String → Path → Nat → Prop
  | here {links : Nat} {directory : Path} : Arrives tree links directory [] directory links
  | dot {links n : Nat} {directory p : Path} {rest : List String}
      (h : Arrives tree links directory rest p n) : Arrives tree links directory ("." :: rest) p n
  | dots {links n : Nat} {directory p : Path} {rest : List String}
      (h : Arrives tree links directory.dropLast rest p n) :
      Arrives tree links directory (".." :: rest) p n
  | file {links : Nat} {directory : Path} {c content : String} (hc : IsEntryName c)
      (hentry : tree.at? (directory ++ [c]) = some (.file content)) :
      Arrives tree links directory [c] (directory ++ [c]) links
  | directory {links n : Nat} {directory p : Path} {c : String} {rest : List String}
      (hc : IsEntryName c) (hentry : tree.at? (directory ++ [c]) = some .directory)
      (h : Arrives tree links (directory ++ [c]) rest p n) :
      Arrives tree links directory (c :: rest) p n
  | link {links n : Nat} {directory p : Path} {c target : String} {rest : List String}
      (hc : IsEntryName c) (hentry : tree.at? (directory ++ [c]) = some (.link target))
      (h : Arrives tree links (if Path.isAbsolute target then [] else directory)
        (Path.linkSteps target ++ rest) p n) :
      Arrives tree (links + 1) directory (c :: rest) p n

/-- The steps of a look-up, one component at a time. -/
theorem walk_cons (links : Nat) (directory : Path) (c : String) (rest : List String) :
    tree.walk links directory (c :: rest) =
      if c = "." then tree.walk links directory rest
      else if c = ".." then tree.walk links directory.dropLast rest
      else if Path.isTooLongName c then .error (.nameTooLong (directory ++ [c]))
      else match tree.at? (directory ++ [c]) with
        | none =>
          if rest.isEmpty then .ok (.vacant (directory ++ [c]), links)
          else .error (.missing (directory ++ [c]))
        | some (.file _) =>
          if rest.isEmpty then .ok (.occupied (directory ++ [c]), links)
          else .error (.notADirectory (directory ++ [c]))
        | some .directory => tree.walk links (directory ++ [c]) rest
        | some (.link target) =>
          match links with
          | 0 => .error (.tooManyLinks (directory ++ [c]))
          | links + 1 => tree.walk links (if Path.isAbsolute target then [] else directory)
            (Path.linkSteps target ++ rest) := by
  cases links with
  | zero =>
    show tree.walkWith _ _ directory (c :: rest) = _
    rw [walkWith]
    simp only [beq_iff_eq]
    rfl
  | succ links =>
    show tree.walkWith _ _ directory (c :: rest) = _
    rw [walkWith]
    simp only [beq_iff_eq]
    rfl

@[simp] theorem walk_nil (links : Nat) (directory : Path) :
    tree.walk links directory [] = .ok (.occupied directory, links) := by
  cases links <;> rfl

/-- What is found is arrived at. -/
theorem arrives_of_walk (h : tree.walk links directory components = .ok (.occupied p, n)) :
    Arrives tree links directory components p n := by
  induction links using Nat.strongRecOn generalizing directory components with
  | ind links ihLinks =>
    induction components generalizing directory with
    | nil =>
      rw [walk_nil] at h
      cases h
      exact .here
    | cons c rest ih =>
      rw [walk_cons] at h
      split at h
      · rename_i hdot
        exact hdot ▸ .dot (ih h)
      split at h
      · rename_i hdots
        exact hdots ▸ .dots (ih h)
      split at h
      · cases h
      rename_i hdot hdots hshort
      have hc : IsEntryName c := ⟨hdot, hdots, by simpa using hshort⟩
      split at h
      · split at h <;> cases h
      · rename_i content hentry
        split at h
        · rename_i hrest
          cases h
          rw [List.isEmpty_iff.1 hrest]
          exact .file hc hentry
        · cases h
      · rename_i hentry
        exact .directory hc hentry (ih h)
      · rename_i target hentry
        cases links with
        | zero => cases h
        | succ links => exact .link hc hentry (ihLinks links (Nat.lt_succ_self links) h)

namespace Arrives

/-- Behind a directory that is arrived at the look-up goes on from there. -/
theorem walk_append (h : Arrives tree links directory components p n)
    (hp : tree.at? p = some .directory) (rest : List String) :
    tree.walk links directory (components ++ rest) = tree.walk n p rest := by
  induction h with
  | here => rfl
  | dot _ ih => simpa [walk_cons] using ih hp
  | dots _ ih => simpa [walk_cons] using ih hp
  | file _ hentry =>
    rw [hentry] at hp
    cases hp
  | directory hc hentry _ ih =>
    rw [List.cons_append, walk_cons, if_neg hc.ne_dot, if_neg hc.ne_dots,
      if_neg (by simp [hc.short]), hentry]
    exact ih hp
  | link hc hentry _ ih =>
    rw [List.cons_append, walk_cons, if_neg hc.ne_dot, if_neg hc.ne_dots,
      if_neg (by simp [hc.short]), hentry]
    dsimp only
    rw [← List.append_assoc]
    exact ih hp

theorem walk_eq (h : Arrives tree links directory components p n) :
    tree.walk links directory components = .ok (.occupied p, n) := by
  induction h with
  | here => exact walk_nil _ _
  | dot _ ih => simpa [walk_cons] using ih
  | dots _ ih => simpa [walk_cons] using ih
  | file hc hentry =>
    rw [walk_cons, if_neg hc.ne_dot, if_neg hc.ne_dots, if_neg (by simp [hc.short]), hentry]
    rfl
  | directory hc hentry _ ih =>
    rw [walk_cons, if_neg hc.ne_dot, if_neg hc.ne_dots, if_neg (by simp [hc.short]), hentry]
    exact ih
  | link hc hentry _ ih =>
    rw [walk_cons, if_neg hc.ne_dot, if_neg hc.ne_dots, if_neg (by simp [hc.short]), hentry]
    exact ih

/-- A way from the root is found, unless it is too long to be looked up. -/
theorem find_eq (h : Arrives tree maxLinks [] components p n)
    (hlong : Path.isTooLong components = false) : tree.find components = .ok (.occupied p) := by
  rw [find, hlong, if_neg (by simp), h.walk_eq]
  rfl

/-- Two ways in a row. -/
theorem append {q : Path} {m : Nat} {rest : List String}
    (h : Arrives tree links directory components p n) (hp : tree.at? p = some .directory)
    (h' : Arrives tree n p rest q m) : Arrives tree links directory (components ++ rest) q m :=
  arrives_of_walk ((h.walk_append hp rest).trans h'.walk_eq)

/-- A way without links leads where its components say. -/
theorem eq_append (h : Arrives tree links directory components p n)
    (hdots : ∀ c ∈ components, c ≠ "." ∧ c ≠ "..")
    (hlinks : ∀ q, q <+: components → q ≠ [] → ∀ text,
      tree.at? (directory ++ q) ≠ some (.link text)) :
    p = directory ++ components := by
  induction h with
  | here => simp
  | dot _ _ => simp at hdots
  | dots _ _ => simp at hdots
  | file _ _ => rfl
  | @directory links n base p c rest hc hentry _ ih =>
    have hbelow : ∀ q, q <+: rest → q ≠ [] → ∀ text,
        tree.at? (base ++ [c] ++ q) ≠ some (.link text) := by
      intro q hq _ text
      have hlink := hlinks (c :: q) (List.cons_prefix_cons.2 ⟨rfl, hq⟩) (by simp) text
      simpa using hlink
    simpa using ih (fun c' hc' => hdots c' (List.mem_cons_of_mem _ hc')) hbelow
  | @link links n base p c target rest hc hentry _ _ =>
    exact absurd hentry (hlinks [c] (by simp [List.cons_prefix_cons]) (by simp) target)

end Arrives

/-! ## What is kept -/

/-- What stands in `tree` stands in `tree'` as well. -/
def Keeps (tree tree' : FileTree) : Prop := ∀ p, tree.at? p ≠ none → tree'.at? p = tree.at? p

namespace Keeps

theorem refl (tree : FileTree) : Keeps tree tree := fun _ _ => rfl

theorem trans {middle : FileTree} (h : Keeps tree middle) (h' : Keeps middle tree') :
    Keeps tree tree' := by
  intro p hp
  have hmiddle := h p hp
  rw [h' p (by rwa [hmiddle]), hmiddle]

theorem at?_eq_some (h : Keeps tree tree') {e : Entry} (he : tree.at? p = some e) :
    tree'.at? p = some e := by
  rw [h p (by simp [he]), he]

end Keeps

/-- Every way is still there in a tree that has more. -/
theorem Arrives.keeps (h : Arrives tree links directory components p n)
    (hkeeps : Keeps tree tree') : Arrives tree' links directory components p n := by
  induction h with
  | here => exact .here
  | dot _ ih => exact .dot ih
  | dots _ ih => exact .dots ih
  | file hc hentry => exact .file hc (hkeeps.at?_eq_some hentry)
  | directory hc hentry _ ih => exact .directory hc (hkeeps.at?_eq_some hentry) ih
  | link hc hentry _ ih => exact .link hc (hkeeps.at?_eq_some hentry) ih

/-- Nothing stands below what is not there. -/
theorem WellFormed.at?_append_eq_none (htree : tree.WellFormed) (h : tree.at? p = none)
    (rest : Path) : tree.at? (p ++ rest) = none := by
  by_contra hrest
  by_cases hnil : rest = []
  · rw [hnil, List.append_nil] at hrest
    exact hrest h
  · have hdirectory := htree.at?_of_prefix (List.prefix_append p rest) (by simpa using hnil) hrest
    rw [h] at hdirectory
    cases hdirectory

/-- A new directory in a directory. -/
theorem WellFormed.put_directory (htree : tree.WellFormed) {c : String}
    (hdirectory : tree.at? directory = some .directory) :
    WellFormed (Entries.put (directory ++ [c]) .directory tree) := by
  intro p d hd
  by_cases hp : p = directory ++ [c]
  · rw [hp]
    exact at?_put_self (by simp) _
  rw [at?_put_of_ne hp]
  by_cases hnew : p ++ [d] = directory ++ [c]
  · rw [(List.append_inj' hnew rfl).1]
    exact hdirectory
  · rw [at?_put_of_ne hnew] at hd
    exact htree p d hd

/-! ## Making directories -/

/-- From `tree` to `tree'` directories were made that components lead to from `directory`, perhaps
not all of them. -/
structure Approaches (tree tree' : FileTree) (links : Nat) (directory : Path)
    (components : List String) : Prop where
  wellFormed : tree'.WellFormed
  keeps : Keeps tree tree'
  new : ∀ p, tree.at? p = none → tree'.at? p ≠ none → tree'.at? p = some .directory ∧
    ∃ q n, q <+: components ∧ q ≠ [] ∧ Arrives tree' links directory q p n

namespace Approaches

theorem refl (htree : tree.WellFormed) (links : Nat) (directory : Path) (components : List String) :
    Approaches tree tree links directory components where
  wellFormed := htree
  keeps := .refl tree
  new _ hp hp' := absurd hp hp'

/-- A directory that the first component leads to, which is there or is made, and those below it. -/
theorem cons {middle : FileTree} {next : Path} {c : String} {rest : List String}
    (hkeeps : Keeps tree middle) (hfirst : Arrives middle links directory [c] next n)
    (hnext : middle.at? next = some .directory)
    (hnew : ∀ p, tree.at? p = none → middle.at? p ≠ none → p = next)
    (h : Approaches middle tree' n next rest) :
    Approaches tree tree' links directory (c :: rest) where
  wellFormed := h.wellFormed
  keeps := hkeeps.trans h.keeps
  new := by
    intro p hp hp'
    have hnext' := h.keeps.at?_eq_some hnext
    have hfirst' := hfirst.keeps h.keeps
    by_cases hmiddle : middle.at? p = none
    · obtain ⟨hdirectory, q, m, hq, -, harrives⟩ := h.new p hmiddle hp'
      exact ⟨hdirectory, c :: q, m, List.cons_prefix_cons.2 ⟨rfl, hq⟩, by simp,
        hfirst'.append hnext' harrives⟩
    · obtain rfl := hnew p hp hmiddle
      exact ⟨hnext', [c], n, by simp [List.cons_prefix_cons], by simp, hfirst'⟩

/-- The first component leads to a directory that is there. -/
theorem cons_there {next : Path} {c : String} {rest : List String}
    (hfirst : Arrives tree links directory [c] next n) (hnext : tree.at? next = some .directory)
    (h : Approaches tree tree' n next rest) : Approaches tree tree' links directory (c :: rest) :=
  cons (.refl tree) hfirst hnext (fun _ hp hp' => absurd hp hp') h

/-- The first component is not there, and a directory is made for it. -/
theorem cons_made {c : String} {rest : List String} (hc : IsEntryName c)
    (hentry : tree.at? (directory ++ [c]) = none)
    (h : Approaches (Entries.put (directory ++ [c]) .directory tree) tree' links
      (directory ++ [c]) rest) :
    Approaches tree tree' links directory (c :: rest) := by
  have hself : at? (Entries.put (directory ++ [c]) .directory tree) (directory ++ [c]) =
      some .directory := at?_put_self (by simp) _
  refine cons ?keeps (.directory hc hself .here) hself ?new h
  case keeps =>
    intro p hp
    apply at?_put_of_ne
    rintro rfl
    exact hp hentry
  case new =>
    intro p hp hp'
    by_contra hne
    rw [at?_put_of_ne hne] at hp'
    exact hp' hp

end Approaches

/-- On the way along the components no entry that is there has too long a name. -/
def ShortNames (tree : FileTree) (links : Nat) (directory : Path)
    (components : List String) : Prop :=
  ∀ q c d n, q ++ [c] <+: components → Arrives tree links directory q d n →
    tree.at? (d ++ [c]) ≠ none → Path.isTooLongName c = false

namespace ShortNames

theorem initial {before : List String} (h : ShortNames tree links directory components)
    (hinitial : before <+: components) : ShortNames tree links directory before :=
  fun q c d n hq => h q c d n (hq.trans hinitial)

theorem tail {next : Path} {c : String} {rest : List String}
    (h : ShortNames tree links directory (c :: rest))
    (hfirst : Arrives tree links directory [c] next n) (hnext : tree.at? next = some .directory) :
    ShortNames tree n next rest := by
  intro q c' d m hq harrives hentry
  exact h (c :: q) c' d m (List.cons_prefix_cons.2 ⟨rfl, hq⟩) (hfirst.append hnext harrives) hentry

/-- Below an empty directory there are no names at all. -/
theorem of_empty (hdots : ∀ c ∈ components, c ≠ "." ∧ c ≠ "..")
    (hempty : ∀ rest, rest ≠ [] → tree.at? (directory ++ rest) = none) :
    ShortNames tree links directory components := by
  intro q c d n hq harrives hentry
  have hinitial : q <+: components := (List.prefix_append q [c]).trans hq
  have hd : d = directory ++ q := harrives.eq_append (fun c' hc' => hdots c' (hinitial.subset hc'))
    (fun q' _ hne text => by simp [hempty q' hne])
  rw [hd, List.append_assoc, hempty _ (by simp)] at hentry
  exact absurd rfl hentry

/-- Below a directory that was just made there are none. -/
theorem of_made (htree : tree.WellFormed) {made : Path} (hentry : tree.at? made = none)
    (hdots : ∀ c ∈ components, c ≠ "." ∧ c ≠ "..") :
    ShortNames (Entries.put made .directory tree) links made components := by
  refine of_empty hdots fun below hbelow => ?_
  rw [at?_put_of_ne (by simpa using hbelow)]
  exact htree.at?_append_eq_none hentry below

end ShortNames

theorem approaches_enterDirectories (htree : tree.WellFormed)
    (hdirectory : tree.at? directory = some .directory)
    (hdots : ∀ c ∈ components, c ≠ "." ∧ c ≠ "..")
    (hshort : ShortNames tree links directory components) :
    Approaches tree (tree.enterDirectories links directory components).1 links directory
      components := by
  induction components generalizing tree directory links with
  | nil => exact .refl htree _ _ _
  | cons c rest ih =>
    obtain ⟨⟨hdot, hdot'⟩, hrest⟩ := List.forall_mem_cons.1 hdots
    -- A component that is there has a short name; one that is not is made only if it has.
    have hname : tree.at? (directory ++ [c]) ≠ none → IsEntryName c :=
      fun hentry =>
        ⟨hdot, hdot', hshort [] c directory links (by simp [List.cons_prefix_cons]) .here hentry⟩
    simp only [enterDirectories, beq_iff_eq, hdot', if_false]
    cases hentry : tree.at? (directory ++ [c]) with
    | none =>
      dsimp only
      split
      · exact .refl htree _ _ _
      · rename_i hlong
        exact .cons_made ⟨hdot, hdot', by simpa using hlong⟩ hentry
          (ih (htree.put_directory hdirectory) (at?_put_self (by simp) _) hrest
            (.of_made htree hentry hrest))
    | some e =>
      have hc := hname (by simp [hentry])
      cases e with
      | directory =>
        have hfirst : Arrives tree links directory [c] (directory ++ [c]) links :=
          .directory hc hentry .here
        exact .cons_there hfirst hentry (ih htree hentry hrest (hshort.tail hfirst hentry))
      | file content => exact .refl htree _ _ _
      | link target =>
        dsimp only
        split
        · exact .refl htree _ _ _
        · exact .refl htree _ _ _
        rename_i path links' hwalk
        split
        · rename_i hpath
          have hpath : tree.at? path = some .directory := by simpa [isDirectory] using hpath
          have hfirst := arrives_of_walk hwalk
          exact .cons_there hfirst hpath (ih htree hpath hrest (hshort.tail hfirst hpath))
        · exact .refl htree _ _ _

theorem approaches_makeDirectories (htree : tree.WellFormed)
    (hdirectory : tree.at? directory = some .directory)
    (hdots : ∀ c ∈ components, c ≠ "." ∧ c ≠ "..")
    (hshort : ShortNames tree maxLinks directory components) :
    Approaches tree (tree.makeDirectories directory components).1 maxLinks directory
      components := by
  unfold makeDirectories
  split
  · exact .refl htree _ _ _
  · split
    · exact .refl htree _ _ _
    · exact approaches_enterDirectories htree hdirectory hdots hshort

namespace Approaches

/-- Only what stands at the paths matters. -/
theorem congr {made : FileTree} (h : Approaches tree made links directory components)
    (hsame : ∀ p, tree'.at? p = made.at? p) : Approaches tree tree' links directory components where
  wellFormed p c := by
    rw [hsame, hsame]
    exact h.wellFormed p c
  keeps p hp := (hsame p).trans (h.keeps p hp)
  new p hp hp' := by
    rw [hsame] at hp' ⊢
    obtain ⟨hdirectory, q, n, hq, hne, harrives⟩ := h.new p hp hp'
    exact ⟨hdirectory, q, n, hq, hne, harrives.keeps fun p _ => hsame p⟩

/-- What is new is no link. -/
theorem ne_link (h : Approaches tree tree' links directory components) {text : String}
    (hp : tree.at? p ≠ some (.link text)) : tree'.at? p ≠ some (.link text) := by
  intro hlink
  by_cases hnone : tree.at? p = none
  · have hdirectory := (h.new p hnone (by simp [hlink])).1
    rw [hlink] at hdirectory
    cases hdirectory
  · rw [h.keeps p hnone] at hlink
    exact hp hlink

/-- Without links on the way, what is new is on the way. -/
theorem isPrefix (h : Approaches tree tree' links [] components)
    (hdots : ∀ c ∈ components, c ≠ "." ∧ c ≠ "..")
    (hlinks : ∀ q, q <+: components → ∀ text, tree.at? q ≠ some (.link text))
    (hp : tree.at? p = none) (hp' : tree'.at? p ≠ none) : p <+: components ∧ p ≠ [] := by
  obtain ⟨-, q, n, hq, hne, harrives⟩ := h.new p hp hp'
  obtain rfl : p = [] ++ q := harrives.eq_append (fun c hc => hdots c (hq.subset hc))
    fun q' hq' _ text => h.ne_link (hlinks _ (hq'.trans hq) text)
  exact ⟨hq, hne⟩

/-- Nothing is new below the last directory. -/
theorem beside {parent : Path} (h : Approaches tree tree' links directory components)
    (htree : tree.WellFormed) (hdots : ∀ c ∈ components, c ≠ "." ∧ c ≠ "..")
    (harrives : Arrives tree' links directory components parent n) {rest : Path}
    (hrest : rest ≠ []) : tree'.at? (parent ++ rest) = tree.at? (parent ++ rest) := by
  by_contra hne
  have hnone : tree.at? (parent ++ rest) = none := by
    by_contra hold
    exact hne (h.keeps _ hold)
  rw [hnone] at hne
  -- From a new directory below it the way would lead on, through no link, and so not back up to it.
  obtain ⟨hdirectory, q, m, ⟨below, rfl⟩, -, hway⟩ := h.new _ hnone hne
  have hback : Arrives tree' m (parent ++ rest) below parent n :=
    arrives_of_walk ((hway.walk_append hdirectory below).symm.trans harrives.walk_eq)
  have hparent := hback.eq_append (fun c hc => hdots c (List.mem_append_right _ hc))
    fun q' _ _ text => h.ne_link (by rw [htree.at?_append_eq_none hnone]; simp)
  have hlength := congrArg List.length hparent
  simp only [List.length_append] at hlength
  exact hrest (List.length_eq_zero_iff.1 (by omega))

end Approaches

end SchemaStructs.Files.FileTree
