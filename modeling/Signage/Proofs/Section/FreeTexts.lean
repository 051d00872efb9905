import Signage.Proofs.Section.Entities
import Signage.Section.Preparation
import Signage.Template.Builtin

/-!
Texts in an index that devices, and those who name things, are free to choose. They come into a
document escaped, so that its delimiters are those of the template and of what is not free, whatever
these texts are.
-/
namespace Signage

/-- The zone without the texts that are free to choose. -/
def Zone.bare (zone : Zone) : Zone := { zone with name := "", background := "" }

def Layout.bare (layout : Layout) : Layout := { layout with zones := layout.zones.map Zone.bare }

/-- The player without the texts that are free to choose. Of waiting tasks it is left whether there
are any. -/
def Player.bare (player : Player) : Player :=
  { player with
    uuid := ""
    name := ""
    playlistName := ""
    zones := player.zones.map Layout.bare
    commands := if player.commands.isEmpty then [] else [""] }

private theorem Layout.numbered_bare (layout : Layout) :
    layout.bare.numbered = layout.numbered.map fun (id, zone) => (id, zone.bare) := by
  simp [numbered, bare, List.zipIdx_map]

private theorem Layout.numbered_map_snd (layout : Layout) :
    layout.numbered.map Prod.snd = layout.zones := by
  rw [numbered, List.map_map]
  exact List.zipIdx_map_fst 0 layout.zones

namespace Section

/-- What an index is made from, without the texts that are free to choose. -/
def Subject.bare (subject : Subject) : Subject :=
  { subject with player := subject.player.bare, targets := ⟨"", ""⟩ }

/-- The row with nothing but the delimiters of its texts. -/
def outlineRow (row : Row) : Row := row.map fun (key, text) => (key, delimiters text)

def outline (table : Table) : Table := table.map fun (name, rows) => (name, rows.map outlineRow)

private theorem outlineRow_metadata (player : Player) :
    (metadataRows player).map outlineRow = (metadataRows player.bare).map outlineRow := by
  simp [metadataRows, outlineRow, Player.bare]

private theorem outlineRow_region (canvas : Canvas) (name : List Char) (place : Geometry)
    (zIndex : Int32) (background background' : String) :
    outlineRow (regionRow canvas name place zIndex background) =
      outlineRow (regionRow canvas name place zIndex background') := by
  simp [regionRow, outlineRow]

private theorem outlineRow_layout (player : Player) :
    (layoutRows player).map outlineRow = (layoutRows player.bare).map outlineRow := by
  have hmulti : player.bare.isMultizone = player.isMultizone := rfl
  have hcanvas : player.bare.canvas = player.canvas := rfl
  have hzones : player.bare.zones = player.zones.map Layout.bare := rfl
  unfold layoutRows
  rw [hmulti, hcanvas, hzones]
  cases player.zones with
  | none => rfl
  | some layout =>
    have hempty : layout.bare.zones.isEmpty = layout.zones.isEmpty := by simp [Layout.bare]
    simp only [Option.map_some, hempty]
    split
    · rw [Layout.numbered_bare, List.map_map, List.map_map, List.map_map]
      apply List.map_congr_left
      rintro ⟨id, zone⟩ -
      exact outlineRow_region _ _ _ _ _ _
    · rfl

private theorem outlineRow_subscription (type : String) (action action' : List Char)
    (method : String) :
    outlineRow (subscriptionRow type action method) =
      outlineRow (subscriptionRow type action' method) := by
  simp [subscriptionRow, outlineRow]

private theorem outlineRow_tasks (player : Player) (targets targets' : Targets) :
    (taskRows player targets).map outlineRow = (taskRows player.bare targets').map outlineRow := by
  unfold taskRows Player.bare
  cases player.commands with
  | nil => rfl
  | cons command commands =>
    exact congrArg (fun row => [row]) (outlineRow_subscription _ _ _ _)

private theorem outlineRow_reports (player : Player) (targets targets' : Targets) :
    (reportRows player targets).map outlineRow =
      (reportRows player.bare targets').map outlineRow := by
  have hreports : player.bare.reports = player.reports := rfl
  unfold reportRows
  rw [hreports, List.map_map, List.map_map]
  apply List.map_congr_left
  intro kind _
  exact outlineRow_subscription _ _ _ _

/-- Free texts make no difference to the delimiters in the rows of a section. -/
theorem outlineRow_rows (subject : Subject) (kind : Kind) :
    (subject.rows kind).map outlineRow = (subject.bare.rows kind).map outlineRow := by
  cases kind with
  | metadata => exact outlineRow_metadata subject.player
  | layout => exact outlineRow_layout subject.player
  | playlist => rfl
  | screenTimes => rfl
  | subscriptions =>
    change (taskRows _ _ ++ reportRows _ _).map outlineRow =
      (taskRows _ _ ++ reportRows _ _).map outlineRow
    rw [List.map_append, List.map_append, outlineRow_tasks _ _ subject.bare.targets,
      outlineRow_reports _ _ subject.bare.targets]
    rfl

private theorem outline_table (subject : Subject) :
    outline subject.table = outline subject.bare.table := by
  unfold outline Subject.table
  rw [List.map_map, List.map_map]
  apply List.map_congr_left
  intro kind _
  exact congrArg (Prod.mk kind.name) (outlineRow_rows subject kind)

/-- The keys of the texts that are free to choose. -/
def freeKeys : List String := ["title", "background_color", "action"]

/-- The texts of a row that are free to choose. -/
def freeTexts (row : Row) : Row := row.filter fun entry => freeKeys.contains entry.1

/-- The colours behind the regions, as they are chosen. -/
def backgrounds (player : Player) : List String :=
  match player.zones with
  | some layout =>
    if player.isMultizone && !layout.zones.isEmpty then layout.zones.map Zone.background
    else ["transparent"]
  | none => ["transparent"]

/-- The addresses that a player is to ask and to report to, as they are chosen. -/
def actions (player : Player) (targets : Targets) : List (List Char) :=
  (if player.commands.isEmpty then [] else [targets.indexUrl.toList]) ++
    (reportKinds.filter fun kind => kind.isAsked player.reports).map fun kind =>
      targets.reportUrl kind.path player.uuid

/-- The free texts of a section as they are chosen, for one row after the other. -/
def Subject.chosen (subject : Subject) : Kind → Row
  | .metadata => [("title", title subject.player)]
  | .layout => (backgrounds subject.player).map fun text => ("background_color", text.toList)
  | .subscriptions => (actions subject.player subject.targets).map fun text => ("action", text)
  | .playlist | .screenTimes => []

private theorem freeTexts_layout (player : Player) :
    (layoutRows player).flatMap freeTexts =
      (backgrounds player).map fun text => ("background_color", escape text.toList) := by
  unfold layoutRows backgrounds
  cases player.zones with
  | none => rfl
  | some layout =>
    dsimp only
    split
    · have hzones : layout.zones = layout.numbered.map Prod.snd := layout.numbered_map_snd.symm
      rw [List.flatMap_map, hzones, List.map_map, List.map_map, List.map_eq_flatMap]
      rfl
    · rfl

private theorem freeTexts_subscriptions (player : Player) (targets : Targets) :
    (subscriptionRows player targets).flatMap freeTexts =
      (actions player targets).map fun text => ("action", escape text) := by
  unfold subscriptionRows actions
  rw [List.flatMap_append, List.map_append]
  congr 1
  · unfold taskRows
    split <;> rfl
  · rw [reportRows, List.flatMap_map, List.map_map, List.map_eq_flatMap]
    rfl

private theorem freeTexts_standby (player : Player) (today : Calendar.Date) :
    (standbyRows player today).flatMap freeTexts = [] := by
  unfold standbyRows
  split
  · rfl
  · rw [List.flatMap_eq_nil_iff]
    intro row hrow
    obtain ⟨day, -, hspan⟩ := List.mem_flatMap.mp hrow
    obtain ⟨span, -, rfl⟩ := List.mem_map.mp hspan
    rfl

private theorem freeTexts_playlist (player : Player) (content : Content.Composition)
    (simple : Bool) : (playlistRows player content simple).flatMap freeTexts = [] := by
  cases simple <;> rfl

/-- Each free text of a section is what was chosen, escaped. -/
theorem freeTexts_rows (subject : Subject) (kind : Kind) :
    (subject.rows kind).flatMap freeTexts =
      (subject.chosen kind).map fun (key, text) => (key, escape text) := by
  cases kind with
  | metadata => rfl
  | layout =>
    rw [Subject.chosen, List.map_map]
    exact freeTexts_layout subject.player
  | playlist => exact freeTexts_playlist _ _ _
  | screenTimes => exact freeTexts_standby _ _
  | subscriptions =>
    rw [Subject.chosen, List.map_map]
    exact freeTexts_subscriptions _ subject.targets

end Section

namespace Template
open Section

private theorem lookup_map_snd {α β : Type} (f : α → β) (entries : List (String × α))
    (key : String) :
    (entries.map fun (name, a) => (name, f a)).lookup key = (entries.lookup key).map f := by
  induction entries with
  | nil => rfl
  | cons entry entries ih =>
    obtain ⟨name, a⟩ := entry
    rw [List.map_cons, List.lookup_cons, List.lookup_cons, ih]
    cases key == name <;> rfl

private theorem textOf_outlineRow (row : Row) (key : String) :
    textOf (outlineRow row) key = delimiters (textOf row key) := by
  unfold textOf outlineRow
  rw [lookup_map_snd]
  cases row.lookup key <;> rfl

private theorem rowsOf_outline (table : Table) (name : String) :
    rowsOf (outline table) name = (rowsOf table name).map outlineRow := by
  unfold rowsOf outline
  rw [lookup_map_snd]
  cases table.lookup name <;> rfl

private theorem delimiters_fill_outlineRow (row : Row) (part : BodyPart) :
    delimiters (part.fill (outlineRow row)) = delimiters (part.fill row) := by
  cases part with
  | text s => rfl
  | key name => rw [BodyPart.fill, BodyPart.fill, textOf_outlineRow, delimiters_delimiters]

/-- The delimiters of a filled segment come from its own text and those of the data. -/
theorem delimiters_fill_outline (table : Table) (segment : Segment) :
    delimiters (segment.fill (outline table)) = delimiters (segment.fill table) := by
  cases segment with
  | text s => rfl
  | block name body =>
    simp only [Segment.fill, rowsOf_outline, List.flatMap_map, delimiters_flatMap,
      delimiters_fill_outlineRow]
  | lookup name key =>
    have hhead : ((rowsOf (outline table) name).head?.getD []) =
        outlineRow ((rowsOf table name).head?.getD []) := by
      rw [rowsOf_outline]
      cases rowsOf table name <;> rfl
    rw [Segment.fill, Segment.fill, hhead, textOf_outlineRow, delimiters_delimiters]

/-- Whether a template renders does not depend on the data, and the delimiters of the document only
depend on the outline of the data. -/
theorem renderSource_of_outline_eq {source document : List Char} {table table' : Table}
    (h : outline table = outline table') (hd : renderSource source table = .ok document) :
    ∃ document', renderSource source table' = .ok document' ∧
      delimiters document' = delimiters document := by
  unfold renderSource at hd ⊢
  cases hs : segments source with
  | error error =>
    rw [hs] at hd
    cases hd
  | ok parts =>
    rw [hs] at hd
    cases hd
    refine ⟨_, rfl, ?_⟩
    rw [delimiters_flatMap, delimiters_flatMap]
    congr 1
    funext segment
    rw [← delimiters_fill_outline, ← h, delimiters_fill_outline]

private theorem render_of_outline_eq {sources : Sources} {name : String} {document : List Char}
    {table table' : Table} (h : outline table = outline table')
    (hd : sources.render name table = .ok document) :
    ∃ document', sources.render name table' = .ok document' ∧
      delimiters document' = delimiters document := by
  unfold Sources.render at hd ⊢
  split at hd
  · exact renderSource_of_outline_eq h hd
  · cases hd

/-- Free texts make no difference to whether a document is rendered, and none to its delimiters. In
every row they are escaped, and putting characters in place of the entities gives back what was
chosen. -/
theorem free_texts_keep_delimiters (sources : Sources) (name : String) {subject other : Subject}
    (h : subject.bare = other.bare) :
    (∀ document, sources.render name subject.table = .ok document →
      ∃ document', sources.render name other.table = .ok document' ∧
        delimiters document' = delimiters document) ∧
      ∀ kind, (∀ entry ∈ (subject.rows kind).flatMap freeTexts, HasOnlyEntities entry.2) ∧
        (((subject.rows kind).flatMap freeTexts).map fun (key, text) => (key, unescape text)) =
          subject.chosen kind := by
  have houtline : outline subject.table = outline other.table := by
    rw [outline_table subject, h, ← outline_table other]
  refine ⟨fun document hd => render_of_outline_eq houtline hd, fun kind => ?_⟩
  rw [freeTexts_rows]
  constructor
  · intro entry hentry
    obtain ⟨⟨key, text⟩, -, rfl⟩ := List.mem_map.mp hentry
    exact hasOnlyEntities_escape text
  · rw [List.map_map]
    refine (List.map_congr_left ?_).trans (List.map_id (subject.chosen kind))
    rintro ⟨key, text⟩ -
    exact congrArg (Prod.mk key) (unescape_escape text)

/-- What an index is made from for a player under a name, with a task and an address for it. -/
def subjectNamed (name task url : String) : Subject where
  player := { Player.unregistered "7" name "" .garlic with commands := [task] }
  content := ⟨"<img/>".toList, [], []⟩
  targets := ⟨url, ""⟩
  simple := true
  today := ⟨2024, 3, 15⟩

/-- A template with a title and one element for each subscription. -/
def subscriptionTemplate : List Char :=
  ("<t>\x7b\x7bmeta.title\x7d\x7d</t>" ++
    "\x7b\x7b#subscriptions\x7d\x7d<a u='\x7b\x7baction\x7d\x7d'/>\x7b\x7b/subscriptions\x7d\x7d").toList

/-- A name that is written like markup and like a tag of the template does not add any. -/
theorem free_texts_keep_delimiters_of_tag :
    (subjectNamed "a" "" "/").bare = (subjectNamed "</t>\x7b\x7bmeta.title\x7d\x7d" "x" "'&'").bare ∧
      ∃ document, Sources.render (fun _ => subscriptionTemplate) "garlic"
          (subjectNamed "</t>\x7b\x7bmeta.title\x7d\x7d" "x" "'&'").table = .ok document ∧
        delimiters document = "<><><''>".toList := by
  have h : (subjectNamed "a" "" "/").bare =
      (subjectNamed "</t>\x7b\x7bmeta.title\x7d\x7d" "x" "'&'").bare := rfl
  have hd : Sources.render (fun _ => subscriptionTemplate) "garlic" (subjectNamed "a" "" "/").table =
      .ok "<t>a - </t><a u='/'/>".toList := by rfl
  obtain ⟨document, hrender, hsame⟩ := (free_texts_keep_delimiters _ "garlic" h).1 _ hd
  refine ⟨h, document, hrender, hsame.trans ?_⟩
  decide

end Template

end Signage
