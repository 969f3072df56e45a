import TableGraph.Proofs.Document.Outline
import TableGraph.Proofs.Operation.Building
import TableGraph.Proofs.Operation.Named

/-! # Sound syntax

Outlines that can be printed and read once their sites are bound: all names in them are names, no
selection is empty, and what waits at a site has the text of a type as its type.

* Soundness is a property of each argument (`Argument.Sound`) and of each field
  (`QueryField.Sound`) on its own;
* a selection is sound if it is not empty and its entries are (`SoundSelection`). -/

namespace TableGraph

open GraphQL

/-! ### Sound syntax -/

/-- A field of names with types at its sites. -/
structure GraphQL.QueryField.Sound (f : QueryField Binding) : Prop where
  wellFormed : f.WellFormed
  types : ∀ b ∈ f.sites, IsTypeText b.type

/-- An argument of names with types at its sites. -/
structure Argument.Sound (a : Argument) : Prop where
  name : isName a.name = true
  value : a.value.outline.WellFormed
  types : ∀ b ∈ a.value.sites, IsTypeText b.type

/-- A selection that is not empty and has sound entries. -/
structure SoundSelection (t : TableName) (entries : List Entry) : Prop where
  ne_nil : entries ≠ []
  entries : ∀ e ∈ entries, (e.outline t).Sound

theorem Argument.Sound.bound {name type : String} (hname : isName name = true)
    (htype : IsTypeText type) (value : Json) : (Argument.bound name type value).Sound := by
  refine ⟨hname, trivial, ?_⟩
  intro b hb
  rw [List.mem_singleton.mp hb]
  exact htype

theorem Argument.Sound.object {name : String} (hname : isName name = true)
    {entries : List (String × ArgumentValue)}
    (h : ∀ e ∈ entries, (Argument.mk e.1 e.2).Sound) :
    (Argument.mk name (.object entries)).Sound := by
  suffices hentries : valuesWellFormed (outlineMembers entries) ∧
      ∀ b ∈ memberSites entries, IsTypeText b.type from ⟨hname, hentries.1, hentries.2⟩
  clear hname
  induction entries with
  | nil => exact ⟨trivial, nofun⟩
  | cons e rest ih =>
      obtain ⟨key, value⟩ := e
      obtain ⟨he, hrest⟩ := List.forall_mem_cons.mp h
      obtain ⟨hwf, htypes⟩ := ih hrest
      exact ⟨⟨he.name, he.value, hwf⟩, List.forall_mem_append.mpr ⟨he.types, htypes⟩⟩

section
variable {arguments : List Argument} (h : ∀ a ∈ arguments, a.Sound)
include h

theorem valuesWellFormed_outlineArguments : valuesWellFormed (outlineArguments arguments) := by
  induction arguments with
  | nil => trivial
  | cons a rest ih =>
      obtain ⟨ha, hrest⟩ := List.forall_mem_cons.mp h
      exact ⟨ha.name, ha.value, ih hrest⟩

theorem types_outlineArguments :
    ∀ b ∈ valueSites (outlineArguments arguments), IsTypeText b.type := by
  rw [valueSites_outlineArguments]
  intro b hb
  obtain ⟨a, ha, hb⟩ := List.mem_flatMap.mp hb
  exact (h a ha).types b hb

end

section
variable {fields : List (QueryField Binding)}

theorem fieldsWellFormed_iff :
    fieldsWellFormed fields ↔ ∀ f ∈ fields, f.WellFormed := by
  induction fields with
  | nil => simp [fieldsWellFormed]
  | cons f rest ih => simp [fieldsWellFormed, ih]

theorem mem_fieldSites {b : Binding} :
    b ∈ fieldSites fields ↔ ∃ f ∈ fields, b ∈ f.sites := by
  induction fields with
  | nil => simp [fieldSites]
  | cons f rest ih => simp [fieldSites, ih]

namespace GraphQL.QueryField.Sound
variable {key : Option String} {name : String} (arguments : List Argument)

theorem leaf (hkey : ∀ k ∈ key, isName k = true) (hname : isName name = true)
    (harguments : ∀ a ∈ arguments, a.Sound) :
    (QueryField.leaf key name (outlineArguments arguments)).Sound :=
  ⟨⟨hkey, hname, valuesWellFormed_outlineArguments harguments⟩, types_outlineArguments harguments⟩

theorem branch (hkey : ∀ k ∈ key, isName k = true) (hname : isName name = true)
    (harguments : ∀ a ∈ arguments, a.Sound) (hne : fields ≠ []) (hfields : ∀ f ∈ fields, f.Sound) :
    (QueryField.branch key name (outlineArguments arguments) fields).Sound := by
  constructor
  · exact ⟨hkey, hname, valuesWellFormed_outlineArguments harguments, hne,
      fieldsWellFormed_iff.mpr fun f hf => (hfields f hf).wellFormed⟩
  · refine List.forall_mem_append.mpr ⟨types_outlineArguments harguments, ?_⟩
    intro b hb
    obtain ⟨f, hf, hb⟩ := mem_fieldSites.mp hb
    exact (hfields f hf).types b hb

end GraphQL.QueryField.Sound

end

theorem outlineSelection_eq_map (t : TableName) (entries : List Entry) :
    outlineSelection t entries = entries.map (·.outline t) := by
  induction entries with
  | nil => rfl
  | cons e rest ih => rw [outlineSelection, ih, List.map_cons]

theorem SoundSelection.branch {t : TableName} {entries : List Entry} (h : SoundSelection t entries)
    {key : Option String} {name : String} (arguments : List Argument)
    (hkey : ∀ k ∈ key, isName k = true) (hname : isName name = true)
    (harguments : ∀ a ∈ arguments, a.Sound) :
    (QueryField.branch key name (outlineArguments arguments)
      (outlineSelection t entries)).Sound := by
  rw [outlineSelection_eq_map]
  refine .branch arguments hkey hname harguments (mt List.map_eq_nil_iff.mp h.ne_nil) ?_
  intro f hf
  obtain ⟨e, he, rfl⟩ := List.mem_map.mp hf
  exact h.entries e he

end TableGraph
