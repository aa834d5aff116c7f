import StyleDoc.Document

/-!
# Documents with changed declarations

Nothing in a document looks at a declaration but at its kind. So a change of declarations that keeps
their kinds can be made in the comments or in the finished records, with the same outcome.
-/

namespace StyleDoc

/-! ## Changed declarations -/

section map

variable (change : Declaration → Declaration)

def Comment.mapDeclaration (comment : Comment) : Comment :=
  { comment with declaration := change comment.declaration }

def Record.mapDeclaration (record : Record) : Record :=
  { record with declaration := change record.declaration }

/-- The groups of a catalogue, with the change in every record. -/
def Catalogue.mapGroups (groups : List (Kind × List Record)) : List (Kind × List Record) :=
  groups.map fun group => (group.1, group.2.map (Record.mapDeclaration change))

def Catalogue.mapDeclarations (catalogue : Catalogue) : Catalogue :=
  ⟨mapGroups change catalogue.groups⟩

def Document.mapDeclarations (document : Document) : Document :=
  { document with catalogue := document.catalogue.mapDeclarations change }

/-- The poster of a draft is kept by its slots alone, so it has no declaration to change. -/
def Document.Draft.mapDeclarations (draft : Draft) : Draft :=
  { draft with catalogue := draft.catalogue.mapDeclarations change }

end map

variable {change : Declaration → Declaration}

/-! ## Records and catalogues -/

theorem Document.finish_mapDeclaration (registry : Registry) (poster : Option (NameMap Slot))
    (record : Record) :
    finish registry poster (record.mapDeclaration change) =
      (finish registry poster record).mapDeclaration change := rfl

theorem Catalogue.addToGroup_mapDeclaration (kind : Kind) (record : Record)
    (groups : List (Kind × List Record)) :
    addToGroup kind (record.mapDeclaration change) (mapGroups change groups) =
      mapGroups change (addToGroup kind record groups) := by
  induction groups with
  | nil => rfl
  | cons group rest inductionHypothesis =>
    by_cases here : group.1 = kind
    · simp [mapGroups, addToGroup, here]
    · simpa [mapGroups, addToGroup, here] using inductionHypothesis

section kinds

variable (kept : ∀ declaration, (change declaration).kind = declaration.kind)
include kept

theorem Record.kind_mapDeclaration (record : Record) :
    (record.mapDeclaration change).kind = record.kind := kept record.declaration

theorem Catalogue.push_mapDeclaration (catalogue : Catalogue) (record : Record) :
    (catalogue.mapDeclarations change).push (record.mapDeclaration change) =
      (catalogue.push record).mapDeclarations change := by
  unfold push mapDeclarations
  rw [Record.kind_mapDeclaration kept, addToGroup_mapDeclaration]

/-! ## Documents -/

namespace Document

/-- The lines of a comment are read by the kind of its declaration, which is the same. -/
theorem Draft.add_mapDeclaration (registry : Registry) (draft : Draft) (comment : Comment) :
    (draft.mapDeclarations change).add registry (comment.mapDeclaration change) =
      (draft.add registry comment).mapDeclarations change := by
  obtain ⟨lines, role, declaration⟩ := comment
  obtain ⟨poster, catalogue, warnings⟩ := draft
  unfold add mapDeclarations Comment.mapDeclaration
  dsimp only
  rw [kept declaration]
  cases role with
  | ordinary =>
    dsimp only
    rw [← Catalogue.push_mapDeclaration kept, ← finish_mapDeclaration]
    rfl
  | poster => cases poster <;> rfl

theorem Draft.foldl_mapDeclaration (registry : Registry) (draft : Draft) (comments : List Comment) :
    (comments.map (Comment.mapDeclaration change)).foldl (Draft.add registry)
        (draft.mapDeclarations change) =
      (comments.foldl (Draft.add registry) draft).mapDeclarations change := by
  induction comments generalizing draft with
  | nil => rfl
  | cons comment rest inductionHypothesis =>
    rw [List.map_cons, List.foldl_cons, List.foldl_cons, Draft.add_mapDeclaration kept]
    exact inductionHypothesis (draft.add registry comment)

theorem ofComments_mapDeclaration (registry : Registry) (comments : List Comment) :
    ofComments registry (comments.map (Comment.mapDeclaration change)) =
      (ofComments registry comments).mapDeclarations change := by
  have run := Draft.foldl_mapDeclaration kept registry .start comments
  have start : Draft.mapDeclarations change .start = .start := rfl
  rw [start] at run
  unfold ofComments
  rw [run]
  rfl

end Document

end kinds

end StyleDoc
