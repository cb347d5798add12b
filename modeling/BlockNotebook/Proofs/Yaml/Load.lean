import BlockNotebook.Proofs.Yaml.Token
import BlockNotebook.Proofs.Yaml.Made
import BlockNotebook.Proofs.Yaml.Scalar.Plain
/-!
The faults of loading a text.

A fault is at a place of the text, or a character that may not be there, or the
text has a `Culprit`: something that is well-formed YAML and that nevertheless
stands for no data.
-/

namespace BlockNotebook.Yaml

/-- What in a text keeps a scalar from being data. -/
inductive Culprit (cs : List Char) : ScalarFault → Prop
  /-- A version number, or an escape. -/
  | lexical {f : ScalarFault} (h : LexicalCause cs f) : Culprit cs f
  /-- A scalar with a tag that does not take its text. -/
  | tagged {anchor : Option String} {name : String} {text : Text} {start : Mark} {f : ScalarFault}
      (he : ⟨.scalar anchor (.tagged name) text, start⟩ ∈ (events (tokens cs)).items)
      (h : Scalar.read (.ofName name) text start = .error (.scalar f)) : Culprit cs f
  /-- A scalar without a tag whose text shows one and does not keep to it. -/
  | plain {anchor : Option String} {text : Text} {start : Mark} {f : ScalarFault}
      (he : ⟨.scalar anchor .byText text, start⟩ ∈ (events (tokens cs)).items)
      (hstrained : Scalar.Strained text.characters)
      (h : Scalar.read (.ofText false text) text start = .error (.scalar f)) : Culprit cs f
  /-- A mapping with the tag of a scalar, and a scalar whose text that tag does not take. -/
  | mapping {anchor anchor' : Option String} {name : String} {typing : Typing} {text : Text} {start start' : Mark}
      {f : ScalarFault} (he : ⟨.mappingStart anchor (some name), start⟩ ∈ (events (tokens cs)).items)
      (he' : ⟨.scalar anchor' typing text, start'⟩ ∈ (events (tokens cs)).items)
      (h : Scalar.read (.ofName name) text start = .error (.scalar f)) : Culprit cs f
  /-- A mapping with the tag of a timestamp. -/
  | timestamp {anchor : Option String} {name : String} {start : Mark}
      (he : ⟨.mappingStart anchor (some name), start⟩ ∈ (events (tokens cs)).items)
      (htag : Tag.ofName name = .timestamp) : Culprit cs .timestampNotText

section
variable {cs : List Char} {g : Graph}

theorem Begins.of_scalar {dates : Bool} {e : Event} {n : Node} (h : Begins dates e n) {text : Text}
    (hn : n.content = .scalar text) : ∃ anchor typing, e = ⟨.scalar anchor typing text, n.start⟩ := by
  cases h <;> cases hn
  · exact ⟨_, _, rfl⟩
  · exact ⟨_, _, rfl⟩
  · exact ⟨_, _, rfl⟩

/-- A mapping has its own tag, or the one that its event names. -/
theorem Begins.of_mapping {dates : Bool} {e : Event} {n : Node} (h : Begins dates e n) (hn : n.kind = .mapping) :
    n.tag = .map ∨ ∃ anchor name, e = ⟨.mappingStart anchor (some name), n.start⟩ ∧ n.tag = .ofName name := by
  cases h with
  | tagged => cases hn
  | byText => cases hn
  | asText => cases hn
  | sequence => cases hn
  | @mapping anchor tag entries start =>
    cases tag with
    | none => exact .inl rfl
    | some name => exact .inr ⟨anchor, name, rfl, rfl⟩

/-- What keeps the nodes of a graph from being data is in the events that began them. -/
theorem culprit_of_valueCause (hbegun : ∀ n ∈ g.nodes, ∃ e ∈ (events (tokens cs)).items, Begins false e n)
    {f : ScalarFault} (h : ValueCause g f) : Culprit cs f := by
  cases h with
  | @scalar n t _ hn ht h =>
    obtain ⟨e, he, hbegins⟩ := hbegun n hn
    cases hbegins with
    | tagged =>
      cases ht
      exact .tagged he h
    | byText =>
      cases ht
      exact .plain he (Scalar.read_ofText h) h
    | asText => cases h
    | sequence => cases ht
    | mapping => cases ht
  | @mapping n m t _ hn hkind hm ht h =>
    obtain ⟨e, he, hbegins⟩ := hbegun n hn
    obtain ⟨e', he', hbegins'⟩ := hbegun m hm
    obtain ⟨anchor', typing, rfl⟩ := hbegins'.of_scalar ht
    rcases hbegins.of_mapping hkind with htag | ⟨anchor, name, rfl, htag⟩
    · rw [htag] at h
      cases h
    · rw [htag] at h
      exact .mapping he he' h
  | @timestamp n hn hkind htag =>
    obtain ⟨e, he, hbegins⟩ := hbegun n hn
    rcases hbegins.of_mapping hkind with hmap | ⟨anchor, name, rfl, hname⟩
    · cases hmap.symm.trans htag
    · exact .timestamp he (hname.symm.trans htag)

end

/-- When the data of a text cannot be loaded, the fault is at a place, or the text has a culprit. -/
theorem loadPlain_ends (t : Text) : Ends (Culprit t.characters) (fun _ => True) (loadPlain t) := by
  have hgraph := (graph?_ends false (events (tokens t.characters))).mono
    (fun f hf => Culprit.lexical (tokens_fault (events_fault hf))) fun _ h => h
  unfold loadPlain load
  split
  · exact .character
  · cases hg : graph? false (events (tokens t.characters)) with
    | error f =>
      rw [hg] at hgraph
      cases hgraph with
      | scalar hf => exact .scalar hf
      | place => exact .place
      | character => exact .character
    | ok g =>
      cases g with
      | none => exact .ok trivial
      | some g =>
        obtain ⟨hclosed, hbegun⟩ := hgraph.of_eq_ok hg g rfl
        exact (Graph.value_ends hclosed).mono (fun f hf => culprit_of_valueCause hbegun hf) fun _ h => h

end BlockNotebook.Yaml
