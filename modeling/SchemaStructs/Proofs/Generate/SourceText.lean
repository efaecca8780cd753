import SchemaStructs.Generate.Source
import SchemaStructs.Proofs.Success

/-!
# Lines of a module

What stands in the file of a table: a `use` line for every import, the lines of every declaration
that the module owns, and the lines of the struct.
-/

namespace SchemaStructs.Generate

open Mapping Rust

/-- The lines stand one after the other in the text. -/
def HasLines (text : String) (lines : List String) : Prop :=
  ∃ before after, text = textOfLines (before ++ lines ++ after)

/-- The text has the lines of a declaration. -/
def Renders (framework : Framework) (text : String) (d : Declaration) : Prop :=
  ∃ lines, declarationLines framework d = .ok lines ∧ HasLines text lines

/-- Every imported path is named in a `use` line for its parent. -/
theorem exists_useLine_of_mem {paths : List String} {p : String} (hp : p ∈ paths) :
    ∃ names, lastSegment p ∈ names ∧ useLine (splitPath p).1 names ∈ groupImports paths := by
  have hsplit : splitPath p ∈ paths.map splitPath := List.mem_map_of_mem hp
  refine ⟨sortedSet .text (((paths.map splitPath).filter (·.1 == (splitPath p).1)).map Prod.snd),
    ?_, ?_⟩
  · exact mem_sortedSet.2 (List.mem_map.2 ⟨_, List.mem_filter.2 ⟨hsplit, by simp⟩, rfl⟩)
  · exact List.mem_map.2 ⟨_, mem_sortedSet.2 (List.mem_map_of_mem hsplit), rfl⟩

theorem mem_paragraph {line : String} {lines : List String} (h : line ∈ lines) :
    line ∈ paragraph lines := by
  unfold paragraph
  split
  · rename_i hempty
    rw [List.isEmpty_iff.1 hempty] at h
    cases h
  · exact List.mem_append_left _ h

variable {framework : Framework} {s : Struct} {owned : List Declaration}
  {imported : List SiblingImport} {text : String}

/-- A file can be written if the declarations in it can. -/
theorem tableFile_eq_ok_iff :
    tableFile framework s owned imported = .ok text ↔
      ∃ declarations, List.Forall₂ (fun d lines => declarationLines framework d = .ok lines)
          owned declarations ∧
        text = textOfLines (["#![allow(dead_code)]", generatedMark, ""] ++
          paragraph (groupImports (crateImports s owned)) ++
          paragraph (siblingImports imported) ++
          declarations.flatMap (· ++ [""]) ++
          s.lines framework) := by
  rw [tableFile, bind_eq_ok_iff]
  refine exists_congr fun declarations => ?_
  rw [mapM_eq_ok_iff, pure_eq_ok_iff, eq_comm]

theorem hasLines_struct (h : tableFile framework s owned imported = .ok text) :
    HasLines text (s.lines framework) := by
  obtain ⟨declarations, -, rfl⟩ := tableFile_eq_ok_iff.1 h
  exact ⟨_, [], by rw [List.append_nil]⟩

theorem renders_of_mem_owned (h : tableFile framework s owned imported = .ok text)
    {d : Declaration} (hd : d ∈ owned) : Renders framework text d := by
  obtain ⟨declarations, hdeclarations, rfl⟩ := tableFile_eq_ok_iff.1 h
  obtain ⟨lines, hlines, hd⟩ := exists_right_of_mem hdeclarations hd
  obtain ⟨before, after, rfl⟩ := List.append_of_mem hlines
  refine ⟨lines, hd, ["#![allow(dead_code)]", generatedMark, ""] ++
      paragraph (groupImports (crateImports s owned)) ++ paragraph (siblingImports imported) ++
      before.flatMap (· ++ [""]),
    [""] ++ after.flatMap (· ++ [""]) ++ s.lines framework, ?_⟩
  rw [List.flatMap_append, List.flatMap_cons]
  simp only [List.append_assoc]

theorem hasLines_useLine (h : tableFile framework s owned imported = .ok text) {p : String}
    (hp : p ∈ crateImports s owned) :
    ∃ names, lastSegment p ∈ names ∧ HasLines text [useLine (splitPath p).1 names] := by
  obtain ⟨declarations, -, rfl⟩ := tableFile_eq_ok_iff.1 h
  obtain ⟨names, hname, hline⟩ := exists_useLine_of_mem hp
  obtain ⟨before, after, hlines⟩ := List.append_of_mem (mem_paragraph hline)
  refine ⟨names, hname, ["#![allow(dead_code)]", generatedMark, ""] ++ before,
    after ++ paragraph (siblingImports imported) ++ declarations.flatMap (· ++ [""]) ++
      s.lines framework, ?_⟩
  rw [hlines]
  simp only [List.append_assoc, List.cons_append, List.nil_append]

theorem hasLines_siblingImport (h : tableFile framework s owned imported = .ok text)
    {m name : String} (hi : (m, name) ∈ imported) :
    HasLines text [s!"use super::{m}::{name};"] := by
  obtain ⟨declarations, -, rfl⟩ := tableFile_eq_ok_iff.1 h
  have hline : s!"use super::{m}::{name};" ∈ siblingImports imported :=
    mem_sortedSet.2 (List.mem_map.2 ⟨(m, name), hi, rfl⟩)
  obtain ⟨before, after, hlines⟩ := List.append_of_mem (mem_paragraph hline)
  refine ⟨["#![allow(dead_code)]", generatedMark, ""] ++
      paragraph (groupImports (crateImports s owned)) ++ before,
    after ++ declarations.flatMap (· ++ [""]) ++ s.lines framework, ?_⟩
  rw [hlines]
  simp only [List.append_assoc, List.cons_append, List.nil_append]

end SchemaStructs.Generate
