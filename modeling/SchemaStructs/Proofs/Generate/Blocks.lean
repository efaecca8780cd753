import SchemaStructs.Proofs.Generate.SourceText
import SchemaStructs.Proofs.Generate.Structs
import SchemaStructs.Proofs.Identifier.Characters
import SchemaStructs.Proofs.Text.Lines

/-!
# Blocks of a module

The text of a module is read line by line: a line that starts with `pub struct` or `pub enum` opens
a block, and the lines up to the closing brace are its members, its documentation or its attributes.
What is read from the file of a table are the declarations that it owns, each with all its members,
and the struct.
-/

namespace SchemaStructs.Generate

open Catalog Mapping Rust Text

/-! ## Reading -/

/-- An item in braces: the line that opens it and the lines of its members. -/
structure Block where
  opening : String
  members : List String
deriving DecidableEq, Repr

def startsWith (start line : String) : Bool := start.toList.isPrefixOf line.toList

def opensBlock (line : String) : Bool :=
  startsWith "pub struct " line || startsWith "pub enum " line

def closing : String := "\x7d"

/-- A line inside a block that is neither documentation nor an attribute. -/
def isMember (line : String) : Bool := !(startsWith "    ///" line || startsWith "    #[" line)

/-- The blocks among some lines, in order. -/
def blocks : List String → List Block
  | [] => []
  | line :: rest =>
    if opensBlock line then ⟨line, (rest.takeWhile (· != closing)).filter isMember⟩ :: blocks rest
    else blocks rest

theorem opensBlock_eq_false {line : String} (h : line.toList.head? ≠ some 'p') :
    opensBlock line = false := by
  unfold opensBlock startsWith
  cases hline : line.toList with
  | nil => rfl
  | cons c rest =>
    have hc : ('p' == c) = false := by
      rw [hline] at h
      simpa using Ne.symm h
    simp [List.isPrefixOf, hc]

theorem blocks_append_of_not_opensBlock {lines : List String}
    (h : ∀ line ∈ lines, opensBlock line = false) (rest : List String) :
    blocks (lines ++ rest) = blocks rest := by
  induction lines with
  | nil => rfl
  | cons line lines ih =>
    obtain ⟨hline, hlines⟩ := List.forall_mem_cons.1 h
    rw [List.cons_append, blocks, if_neg (by simp [hline]), ih hlines]

/-- Lines of one item: what stands before it, its opening, its body and the closing brace. -/
inductive Item : List String → Block → Prop
  | mk {before body : List String} {opening : String}
      (hbefore : ∀ line ∈ before, opensBlock line = false) (hopening : opensBlock opening = true)
      (hbody : ∀ line ∈ body, opensBlock line = false ∧ line ≠ closing) :
      Item (before ++ opening :: (body ++ [closing])) ⟨opening, body.filter isMember⟩

theorem Item.blocks_append {lines : List String} {block : Block} (h : Item lines block)
    (rest : List String) : blocks (lines ++ rest) = block :: blocks rest := by
  cases h with
  | @mk before body opening hbefore hopening hbody =>
    have hbodyOpens : ∀ line ∈ body ++ [closing], opensBlock line = false := by
      intro line hline
      rcases List.mem_append.1 hline with hline | hline
      · exact (hbody line hline).1
      · rw [List.mem_singleton.1 hline]
        decide
    have htake : (body ++ [closing] ++ rest).takeWhile (· != closing) = body := by
      rw [List.append_assoc, List.takeWhile_append_of_pos (by simpa using fun l hl =>
        (hbody l hl).2)]
      simp
    rw [List.append_assoc, blocks_append_of_not_opensBlock hbefore, List.cons_append, blocks,
      if_pos hopening, htake, blocks_append_of_not_opensBlock hbodyOpens]

example : blocks ["/// Table `public.users`", "pub struct Users \x7b", "    /// Primary key",
      "    pub id: i32,", "\x7d"] = [⟨"pub struct Users \x7b", ["    pub id: i32,"]⟩] := by decide

theorem blocks_flatMap {items : List (List String)} {read : List Block}
    (h : List.Forall₂ Item items read) (rest : List String) :
    blocks (items.flatMap (· ++ [""]) ++ rest) = read ++ blocks rest := by
  induction h with
  | nil => rfl
  | cons hitem _ ih =>
    rw [List.flatMap_cons, List.append_assoc, List.append_assoc, hitem.blocks_append,
      blocks_append_of_not_opensBlock (by decide), ih, List.cons_append]

/-! ## Lines of items -/

theorem startsWith_append (start rest : String) : startsWith start (start ++ rest) = true := by
  unfold startsWith
  rw [String.toList_append, List.isPrefixOf_iff_prefix]
  exact List.prefix_append _ _

theorem head?_toList_append {start rest : String} {c : Char} (h : start.toList.head? = some c) :
    (start ++ rest).toList.head? = some c := by
  rw [String.toList_append, List.head?_append, h, Option.some_or]

theorem opensBlock_append {start rest : String} {c : Char} (h : start.toList.head? = some c)
    (hc : c ≠ 'p') : opensBlock (start ++ rest) = false := by
  apply opensBlock_eq_false
  rw [head?_toList_append h]
  simpa using hc

theorem ne_closing {start rest : String} {c : Char} (h : start.toList.head? = some c)
    (hc : c ≠ '\x7d') : start ++ rest ≠ closing := by
  intro he
  have hhead : (start ++ rest).toList.head? = some c := head?_toList_append h
  rw [he] at hhead
  exact hc (Option.some.inj hhead).symm

def unindented (text : List Char) : List Char := text.dropWhile (· == ' ')

theorem startsWith_eq_false {start line : String} {c : Char} (hstart : start.toList.head? = some c)
    (hline : line.toList.head? ≠ some c) : startsWith start line = false := by
  unfold startsWith
  rw [Bool.eq_false_iff, ne_eq, List.isPrefixOf_iff_prefix]
  rintro ⟨rest, hrest⟩
  rw [← hrest, List.head?_append, hstart] at hline
  exact hline rfl

/-- Indentation does not matter. -/
theorem unindented_append {margin rest : String} (hmargin : margin = "" ∨ margin = indent)
    (hrest : rest.toList.head? ≠ some ' ') : unindented (margin ++ rest).toList = rest.toList := by
  have hstart : rest.toList.dropWhile (· == ' ') = rest.toList := by
    cases hlist : rest.toList with
    | nil => rfl
    | cons c cs =>
      rw [hlist] at hrest
      rw [List.dropWhile_cons_of_neg]
      simpa using hrest
  unfold unindented
  rcases hmargin with rfl | rfl
  · rw [String.empty_append, hstart]
  · rw [String.toList_append]
    simp [indent, hstart]

/-- What is indented neither opens nor closes a block. -/
theorem indented (rest : String) : opensBlock (indent ++ rest) = false ∧ indent ++ rest ≠ closing :=
  ⟨opensBlock_append (c := ' ') rfl (by decide), ne_closing (c := ' ') rfl (by decide)⟩

theorem isMember_indented {rest : String} (hslash : rest.toList.head? ≠ some '/')
    (hhash : rest.toList.head? ≠ some '#') : isMember (indent ++ rest) = true := by
  unfold isMember startsWith
  rw [String.toList_append]
  cases hrest : rest.toList with
  | nil => decide
  | cons c cs =>
    rw [hrest] at hslash hhash
    have hslash' : ('/' == c) = false := by simpa using Ne.symm hslash
    have hhash' : ('#' == c) = false := by simpa using Ne.symm hhash
    simp [indent, List.isPrefixOf, hslash', hhash']

theorem not_isMember_documentation (note : String) :
    isMember (indent ++ ("/// " ++ note)) = false := by
  simp [isMember, startsWith, indent, List.isPrefixOf]

/-- An attribute of what follows it. -/
def IsAttribute (line : String) : Prop := startsWith "#[" line = true

theorem isAttribute_deriveLine (derives : List String) : IsAttribute (deriveLine derives) := by
  simp [IsAttribute, deriveLine, toString, startsWith, List.isPrefixOf]

theorem isAttribute_rename (text : String) : IsAttribute (Framework.rename text) := by
  show IsAttribute s!"#[sqlx(rename = {stringLiteral text})]"
  simp [IsAttribute, toString, startsWith, List.isPrefixOf]

section Attributes

variable {framework : Framework} {line : String}

theorem isAttribute_of_mem_typeAttributes {name : QualifiedName}
    (h : line ∈ framework.typeAttributes name) : IsAttribute line := by
  cases framework with
  | plain => cases h
  | sqlx =>
    obtain rfl := List.mem_singleton.1 h
    simp [IsAttribute, toString, startsWith, List.isPrefixOf]

theorem isAttribute_of_mem_variantAttributes {label : String}
    (h : line ∈ framework.variantAttributes label) : IsAttribute line := by
  cases framework with
  | plain => cases h
  | sqlx =>
    obtain rfl := List.mem_singleton.1 h
    exact isAttribute_rename label

theorem isAttribute_of_mem_fieldAttributes {column identifier : String}
    (h : line ∈ framework.fieldAttributes column identifier) : IsAttribute line := by
  cases framework with
  | plain => cases h
  | sqlx =>
    dsimp only [Framework.fieldAttributes] at h
    split at h
    · cases h
    · obtain rfl := List.mem_singleton.1 h
      exact isAttribute_rename column

end Attributes

theorem IsAttribute.exists_toList_eq {line : String} (h : IsAttribute line) :
    ∃ rest, line.toList = '#' :: '[' :: rest := by
  obtain ⟨rest, hrest⟩ := List.isPrefixOf_iff_prefix.1 h
  exact ⟨rest, hrest.symm⟩

theorem IsAttribute.opensBlock_eq {line : String} (h : IsAttribute line) :
    opensBlock line = false := by
  obtain ⟨rest, hrest⟩ := h.exists_toList_eq
  apply opensBlock_eq_false
  simp [hrest]

theorem IsAttribute.isMember_eq {line : String} (h : IsAttribute line) :
    isMember (indent ++ line) = false := by
  obtain ⟨rest, hrest⟩ := h.exists_toList_eq
  simp [isMember, startsWith, indent, List.isPrefixOf, hrest]

/-- Nothing is left of lines that are all attributes. -/
theorem filter_isMember_attributes {lines : List String} (h : ∀ line ∈ lines, IsAttribute line) :
    (lines.map (indent ++ ·)).filter isMember = [] := by
  rw [List.filter_eq_nil_iff]
  intro line hline
  obtain ⟨rest, hrest, rfl⟩ := List.mem_map.1 hline
  simp [(h rest hrest).isMember_eq]

/-! ### Structs -/

theorem fieldLine_eq (identifier : String) (type : TypeExpr) :
    fieldLine identifier type = indent ++ ("pub " ++ identifier ++ ": " ++ type.render ++ ",") := by
  simp [fieldLine, toString, String.append_assoc]

theorem isMember_fieldLine (identifier : String) (type : TypeExpr) :
    isMember (fieldLine identifier type) = true := by
  rw [fieldLine_eq]
  apply isMember_indented <;> simp

theorem documentation_eq (note : String) : s!"{indent}/// {note}" = indent ++ ("/// " ++ note) := by
  simp [toString, String.append_assoc]

/-- Of the lines of a field only the last is a member. -/
theorem filter_isMember_field (framework : Framework) (f : Field) :
    (f.lines framework).filter isMember = [fieldLine f.name f.type] := by
  have hnotes : (f.notes.map fun note => s!"{indent}/// {note}").filter isMember = [] := by
    rw [List.filter_eq_nil_iff]
    intro line hline
    obtain ⟨note, -, rfl⟩ := List.mem_map.1 hline
    simp [documentation_eq, not_isMember_documentation]
  rw [Field.lines, List.filter_append, List.filter_append, hnotes,
    filter_isMember_attributes fun _ h => isAttribute_of_mem_fieldAttributes h]
  simp [isMember_fieldLine]

theorem forall_mem_fieldLines (framework : Framework) (f : Field) :
    ∀ line ∈ f.lines framework, ∃ rest, line = indent ++ rest := by
  intro line hline
  rcases List.mem_append.1 hline with hline | hline
  · rcases List.mem_append.1 hline with hline | hline
    · obtain ⟨note, -, rfl⟩ := List.mem_map.1 hline
      exact ⟨_, documentation_eq note⟩
    · obtain ⟨rest, -, rfl⟩ := List.mem_map.1 hline
      exact ⟨rest, rfl⟩
  · rw [List.mem_singleton.1 hline]
    exact ⟨_, fieldLine_eq _ _⟩

/-- An item whose body is indented. -/
theorem item_of_indented {before body : List String} {opening : String}
    (hbefore : ∀ line ∈ before, opensBlock line = false) (hopening : opensBlock opening = true)
    (hbody : ∀ line ∈ body, ∃ rest, line = indent ++ rest) :
    Item (before ++ [opening] ++ body ++ [closing]) ⟨opening, body.filter isMember⟩ := by
  have hitem : Item (before ++ opening :: (body ++ [closing])) ⟨opening, body.filter isMember⟩ := by
    apply Item.mk hbefore hopening
    intro line hline
    obtain ⟨rest, rfl⟩ := hbody line hline
    exact indented rest
  simpa using hitem

theorem opensBlock_struct (name : String) : opensBlock s!"pub struct {name} \x7b" = true := by
  simp only [opensBlock, Bool.or_eq_true, toString, String.append_assoc]
  exact Or.inl (startsWith_append _ _)

theorem opensBlock_enum (name : String) : opensBlock s!"pub enum {name} \x7b" = true := by
  simp only [opensBlock, Bool.or_eq_true, toString, String.append_assoc]
  exact Or.inr (startsWith_append _ _)

/-- The documentation and derives of an item open no block. -/
theorem not_opensBlock_heading {documentation : String} {derives : List String}
    (h : documentation.toList.head? = some '/') :
    ∀ line ∈ [documentation, deriveLine derives], opensBlock line = false := by
  intro line hline
  rcases List.mem_pair.1 hline with rfl | rfl
  · apply opensBlock_eq_false
    simp [h]
  · exact (isAttribute_deriveLine _).opensBlock_eq

/-- The struct of a table as it is read back. -/
def Struct.block (s : Struct) : Block :=
  ⟨s!"pub struct {s.name} \x7b", s.fields.map fun f => fieldLine f.name f.type⟩

theorem Struct.item (framework : Framework) (s : Struct) : Item (s.lines framework) s.block := by
  have hmembers : (s.fields.flatMap (Field.lines framework)).filter isMember =
      s.fields.map fun f => fieldLine f.name f.type := by
    rw [List.filter_flatMap, List.map_eq_flatMap]
    exact congrArg (s.fields.flatMap ·) (funext fun f => filter_isMember_field framework f)
  have hbody : ∀ line ∈ s.fields.flatMap (Field.lines framework), ∃ rest,
      line = indent ++ rest := by
    intro line hline
    obtain ⟨f, -, hline⟩ := List.mem_flatMap.1 hline
    exact forall_mem_fieldLines framework f line hline
  rw [Struct.block, ← hmembers]
  exact item_of_indented (not_opensBlock_heading (by simp [toString]))
    (opensBlock_struct s.name) hbody

/-! ### Declarations -/

/-- What an identifier is given for by a function is found with the value of the function. -/
theorem eq_of_identifierOf {α : Type} {xs : List α} {source : α → String} {f : String → String}
    {scope name identifier : String} {identifiers : Entries String String}
    (hassign : assign scope (xs.map fun x => (source x, f (source x))) = .ok identifiers)
    (h : identifierOf identifiers name = .ok identifier) : identifier = f name := by
  obtain ⟨-, rfl⟩ := assign_eq_ok_iff.1 hassign
  have hmem := Entries.mem_of_mem_ofPairs (Entries.mem_of_get? (identifierOf_eq_ok_iff.1 h))
  obtain ⟨x, -, hx⟩ := List.mem_map.1 hmem
  obtain ⟨rfl, rfl⟩ := Prod.mk.inj hx
  rfl

def variantLine (identifier : String) : String := s!"{indent}{identifier},"

theorem variantLine_eq (identifier : String) :
    variantLine identifier = indent ++ (identifier ++ ",") := by
  simp [variantLine, toString, String.append_assoc]

/-- A variant starts with its identifier. -/
theorem head?_variant_ne {label : String} {c : Char} (hc : ¬ Text.IsPlain c) (hne : c ≠ '_')
    (hcomma : c ≠ ',') : (Identifier.variantName label ++ ",").toList.head? ≠ some c := by
  intro h
  have hmem := List.mem_of_mem_head? h
  rw [String.toList_append, List.mem_append] at hmem
  rcases hmem with hmem | hmem
  · exact (Identifier.isPlainName_variantName label).not_mem hc hne hmem
  · exact hcomma (List.mem_singleton.1 hmem)

theorem isMember_variantLine (label : String) :
    isMember (variantLine (Identifier.variantName label)) = true := by
  rw [variantLine_eq]
  exact isMember_indented (head?_variant_ne (by decide) (by decide) (by decide))
    (head?_variant_ne (by decide) (by decide) (by decide))

theorem variantLines_eq (framework : Framework) (label identifier : String) :
    variantLines framework label identifier =
      (framework.variantAttributes label).map (indent ++ ·) ++ [variantLine identifier] := rfl

theorem filter_isMember_variant (framework : Framework) (label : String) :
    (variantLines framework label (Identifier.variantName label)).filter isMember =
      [variantLine (Identifier.variantName label)] := by
  rw [variantLines_eq, List.filter_append,
    filter_isMember_attributes fun _ h => isAttribute_of_mem_variantAttributes h]
  simp [isMember_variantLine]

theorem forall_mem_variantLines (framework : Framework) (label identifier : String) :
    ∀ line ∈ variantLines framework label identifier, ∃ rest, line = indent ++ rest := by
  intro line hline
  rw [variantLines_eq, List.mem_append] at hline
  rcases hline with hline | hline
  · obtain ⟨rest, -, rfl⟩ := List.mem_map.1 hline
    exact ⟨rest, rfl⟩
  · rw [List.mem_singleton.1 hline]
    exact ⟨_, variantLine_eq _⟩

/-- The lines before a declaration: its documentation, derives and attributes. -/
theorem not_opensBlock_preamble {documentation : String} {derives : List String}
    {framework : Framework} {name : QualifiedName} (h : documentation.toList.head? = some '/') :
    ∀ line ∈ [documentation, deriveLine derives] ++ framework.typeAttributes name,
      opensBlock line = false := by
  intro line hline
  rcases List.mem_append.1 hline with hline | hline
  · exact not_opensBlock_heading h line hline
  · exact (isAttribute_of_mem_typeAttributes hline).opensBlock_eq

/-- The members of a declaration as they are read back. -/
def memberLines (d : Declaration) : List String :=
  match d.body with
  | .enum labels => labels.map fun label => variantLine (Identifier.variantName label)
  | .composite _ fields _ _ => fields.map fun f => fieldLine (Identifier.columnName f.1) f.2

/-- The declaration as it is read back. -/
def declarationBlock (d : Declaration) : Block :=
  match d.body with
  | .enum _ => ⟨s!"pub enum {d.identifier} \x7b", memberLines d⟩
  | .composite .. => ⟨s!"pub struct {d.identifier} \x7b", memberLines d⟩

/-- Every variant is written, under the identifier of its label. -/
theorem enumLines_eq_ok {framework : Framework} {name : QualifiedName} {identifier : String}
    {labels lines : List String} (h : enumLines framework name identifier labels = .ok lines) :
    Identifier.Consistent .sensitive
      (labels.map fun label => (label, Identifier.variantName label)) ∧
      lines = [s!"/// Enum `{name.text}`", deriveLine framework.enumDerives] ++
        framework.typeAttributes name ++ [s!"pub enum {identifier} \x7b"] ++
        labels.flatMap (fun label => variantLines framework label (Identifier.variantName label)) ++
        [closing] := by
  obtain ⟨variants, hassign, h⟩ := bind_eq_ok_iff.1 h
  obtain ⟨body, hbody, h⟩ := bind_eq_ok_iff.1 h
  refine ⟨(assign_eq_ok_iff.1 hassign).1, ?_⟩
  have hlines : labels.map (fun label =>
      variantLines framework label (Identifier.variantName label)) = body.map id := by
    apply map_eq_map_of_related (mapM_eq_ok_iff.1 hbody)
    intro label lines hlines
    obtain ⟨identifier', hidentifier, hlines⟩ := bind_eq_ok_iff.1 hlines
    rw [eq_of_identifierOf (f := Identifier.variantName) hassign hidentifier] at hlines
    exact pure_eq_ok_iff.1 hlines
  rw [← pure_eq_ok_iff.1 h, List.flatMap_def, hlines, List.map_id]
  rfl

theorem compositeLines_eq_ok {framework : Framework} {name : QualifiedName} {identifier : String}
    {fields : List RecordField} {lines : List String}
    (h : compositeLines framework name identifier fields = .ok lines) :
    Identifier.Consistent .sensitive (fields.map fun f => (f.1, Identifier.columnName f.1)) ∧
      lines = [s!"/// Composite type `{name.text}`", deriveLine framework.compositeDerives] ++
        framework.typeAttributes name ++ [s!"pub struct {identifier} \x7b"] ++
        fields.map (fun f => fieldLine (Identifier.columnName f.1) f.2) ++ [closing] := by
  obtain ⟨identifiers, hassign, h⟩ := bind_eq_ok_iff.1 h
  obtain ⟨body, hbody, h⟩ := bind_eq_ok_iff.1 h
  refine ⟨(assign_eq_ok_iff.1 hassign).1, ?_⟩
  have hlines : fields.map (fun f => fieldLine (Identifier.columnName f.1) f.2) = body.map id := by
    apply map_eq_map_of_related (mapM_eq_ok_iff.1 hbody)
    intro f line hline
    obtain ⟨identifier', hidentifier, hline⟩ := bind_eq_ok_iff.1 hline
    rw [eq_of_identifierOf (f := Identifier.columnName) hassign hidentifier] at hline
    exact pure_eq_ok_iff.1 hline
  rw [← pure_eq_ok_iff.1 h, hlines, List.map_id]
  rfl

/-- What is read back from the lines of a declaration. -/
theorem item_declaration {framework : Framework} {d : Declaration} {lines : List String}
    (h : declarationLines framework d = .ok lines) : Item lines (declarationBlock d) := by
  obtain ⟨name, identifier, body⟩ := d
  cases body with
  | enum labels =>
    obtain ⟨-, rfl⟩ := enumLines_eq_ok h
    have hmembers : (labels.flatMap fun label =>
        variantLines framework label (Identifier.variantName label)).filter isMember =
          labels.map fun label => variantLine (Identifier.variantName label) := by
      rw [List.filter_flatMap, List.map_eq_flatMap]
      exact congrArg (labels.flatMap ·)
        (funext fun label => filter_isMember_variant framework label)
    show Item _ ⟨_, labels.map fun label => variantLine (Identifier.variantName label)⟩
    rw [← hmembers]
    apply item_of_indented (not_opensBlock_preamble ?_) (opensBlock_enum identifier)
    · intro line hline
      obtain ⟨label, -, hline⟩ := List.mem_flatMap.1 hline
      exact forall_mem_variantLines framework label _ line hline
    · simp [toString]
  | composite source fields dependencies unsupported =>
    obtain ⟨-, rfl⟩ := compositeLines_eq_ok h
    have hmembers : (fields.map fun f => fieldLine (Identifier.columnName f.1) f.2).filter
        isMember = fields.map fun f => fieldLine (Identifier.columnName f.1) f.2 := by
      rw [List.filter_eq_self]
      intro line hline
      obtain ⟨f, -, rfl⟩ := List.mem_map.1 hline
      exact isMember_fieldLine _ _
    have hbody : ∀ line ∈ fields.map (fun f => fieldLine (Identifier.columnName f.1) f.2),
        ∃ rest, line = indent ++ rest := by
      intro line hline
      obtain ⟨f, -, rfl⟩ := List.mem_map.1 hline
      exact ⟨_, fieldLine_eq _ _⟩
    have hbefore : ∀ line ∈
        [s!"/// Composite type `{name.text}`", deriveLine framework.compositeDerives] ++
        framework.typeAttributes name, opensBlock line = false :=
      not_opensBlock_preamble (by simp [toString])
    have hitem := item_of_indented hbefore (opensBlock_struct identifier) hbody
    rw [hmembers] at hitem
    exact hitem

/-! ## Files -/

section Files

variable {framework : Framework} {s : Struct} {owned : List Declaration}
  {imported : List SiblingImport} {text : String}

theorem mem_of_mem_paragraph {line : String} {lines : List String} (h : line ∈ paragraph lines) :
    line ∈ lines ∨ line = "" := by
  unfold paragraph at h
  split at h
  · cases h
  · exact (List.mem_append.1 h).imp_right List.mem_singleton.1

/-- What holds of every part of a file holds of all its lines. -/
theorem forall_mem_fileLines {P : String → Prop} {imports siblings struct : List String}
    {declarations : List (List String)}
    (hfixed : ∀ line ∈ ["#![allow(dead_code)]", generatedMark, ""], P line)
    (himports : ∀ line ∈ imports, P line) (hsiblings : ∀ line ∈ siblings, P line)
    (hdeclarations : ∀ lines ∈ declarations, ∀ line ∈ lines, P line)
    (hstruct : ∀ line ∈ struct, P line) :
    ∀ line ∈ ["#![allow(dead_code)]", generatedMark, ""] ++ paragraph imports ++
      paragraph siblings ++ declarations.flatMap (· ++ [""]) ++ struct, P line := by
  have hempty : P "" := hfixed "" (by simp)
  have hparagraph : ∀ lines : List String, (∀ line ∈ lines, P line) → ∀ line ∈ paragraph lines,
      P line := by
    intro lines hlines line hline
    rcases mem_of_mem_paragraph hline with hline | rfl
    · exact hlines line hline
    · exact hempty
  intro line hline
  simp only [List.mem_append] at hline
  rcases hline with (((hline | hline) | hline) | hline) | hline
  · exact hfixed line (by simpa using hline)
  · exact hparagraph imports himports line hline
  · exact hparagraph siblings hsiblings line hline
  · obtain ⟨lines, hlines, hline⟩ := List.mem_flatMap.1 hline
    rcases List.mem_append.1 hline with hline | hline
    · exact hdeclarations lines hlines line hline
    · rw [List.mem_singleton.1 hline]
      exact hempty
  · exact hstruct line hline

/-- Imports open no block. -/
theorem not_opensBlock_crateImport {paths : List String} {line : String}
    (h : line ∈ paragraph (groupImports paths)) : opensBlock line = false := by
  rcases mem_of_mem_paragraph h with h | rfl
  · obtain ⟨parent, -, rfl⟩ := List.mem_map.1 h
    unfold useLine
    split <;>
    · simp only [toString, String.append_assoc]
      exact opensBlock_append (c := 'u') rfl (by decide)
  · decide

theorem not_opensBlock_siblingImport {line : String}
    (h : line ∈ paragraph (siblingImports imported)) : opensBlock line = false := by
  rcases mem_of_mem_paragraph h with h | rfl
  · obtain ⟨i, -, rfl⟩ := List.mem_map.1 (mem_sortedSet.1 h)
    simp only [toString, String.append_assoc]
    exact opensBlock_append (c := 'u') rfl (by decide)
  · decide

/-- What is read from the file of a table, if no line of it is broken: the blocks of the
declarations in it and that of the struct, in this order, and nothing else. -/
theorem blocks_tableFile (h : tableFile framework s owned imported = .ok text)
    (himports : ∀ line ∈ groupImports (crateImports s owned), Unbroken line)
    (hsiblings : ∀ line ∈ siblingImports imported, Unbroken line)
    (howned : ∀ d ∈ owned, ∀ lines, declarationLines framework d = .ok lines →
      ∀ line ∈ lines, Unbroken line)
    (hstruct : ∀ line ∈ s.lines framework, Unbroken line) :
    blocks (linesOf text) = owned.map declarationBlock ++ [s.block] := by
  obtain ⟨declarations, hdeclarations, rfl⟩ := tableFile_eq_ok_iff.1 h
  have hdeclared : ∀ lines ∈ declarations, ∀ line ∈ lines, Unbroken line := by
    intro lines hlines
    obtain ⟨d, hd, hlines⟩ := exists_left_of_mem hdeclarations hlines
    exact howned d hd lines hlines
  have hunbroken :=
    forall_mem_fileLines (P := Unbroken) (by decide) himports hsiblings hdeclared hstruct
  have hbefore : ∀ line ∈ ["#![allow(dead_code)]", generatedMark, ""] ++
      paragraph (groupImports (crateImports s owned)) ++ paragraph (siblingImports imported),
      opensBlock line = false := by
    intro line hline
    simp only [List.mem_append] at hline
    rcases hline with (hline | hline) | hline
    · revert line
      decide
    · exact not_opensBlock_crateImport hline
    · exact not_opensBlock_siblingImport hline
  have hne : ["#![allow(dead_code)]", generatedMark, ""] ++
      paragraph (groupImports (crateImports s owned)) ++ paragraph (siblingImports imported) ++
      declarations.flatMap (· ++ [""]) ++ s.lines framework ≠ [] := List.cons_ne_nil _ _
  have hitems : List.Forall₂ Item declarations (owned.map declarationBlock) := by
    rw [List.forall₂_map_right_iff]
    exact hdeclarations.flip.imp fun _ _ => item_declaration
  rw [textOfLines, linesOf_intercalate hne hunbroken, List.append_assoc, List.append_assoc,
    blocks_append_of_not_opensBlock hbefore, blocks_flatMap hitems,
      (s.item framework).blocks_append]
  rfl

end Files

end SchemaStructs.Generate
