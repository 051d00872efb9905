import Mathlib.Data.List.Forall2
import Signage.Proofs.Index.Publication
import Signage.Index.Compiler

/-!
The built-in templates and the sections fit together. Which keys the rows of a section have is known
before a row is made, so that a template can be checked against them once, for all players.
-/
namespace Signage.Section

/-- The keys of the rows of a section, in order. -/
def Kind.keys (simple : Bool) : Kind → List String
  | .metadata => ["title", "refresh"]
  | .layout =>
    ["root_width", "root_height", "region_name", "left", "top", "width", "height", "z_index",
      "background_color"]
  | .playlist =>
    if simple then ["items"] else ["items", "exclusive", "prefetch", "prefetch_refresh_time"]
  | .screenTimes => ["begin", "end"]
  | .subscriptions => ["type", "action", "method"]

/-- Whether a section has rows for every player. -/
def Kind.isFilled : Kind → Bool
  | .metadata | .layout | .playlist => true
  | .screenTimes | .subscriptions => false

variable {subject : Subject} {kind : Kind} {row : Row}

private theorem keys_layout {player : Player} (h : row ∈ layoutRows player) (simple : Bool) :
    row.map Prod.fst = Kind.layout.keys simple := by
  have hfull (h : row ∈ [fullScreenRow player.canvas]) : row.map Prod.fst = Kind.layout.keys simple := by
    rw [List.mem_singleton.mp h]
    rfl
  unfold layoutRows at h
  split at h
  · split at h
    · obtain ⟨⟨id, zone⟩, -, rfl⟩ := List.mem_map.mp h
      rfl
    · exact hfull h
  · exact hfull h

private theorem keys_standby {player : Player} {today : Calendar.Date}
    (h : row ∈ standbyRows player today) (simple : Bool) :
    row.map Prod.fst = Kind.screenTimes.keys simple := by
  unfold standbyRows at h
  split at h
  · cases h
  · obtain ⟨day, -, h⟩ := List.mem_flatMap.mp h
    obtain ⟨span, -, rfl⟩ := List.mem_map.mp h
    rfl

private theorem keys_subscriptions {player : Player} {targets : Targets}
    (h : row ∈ subscriptionRows player targets) (simple : Bool) :
    row.map Prod.fst = Kind.subscriptions.keys simple := by
  rcases List.mem_append.mp h with h | h
  · unfold taskRows at h
    split at h
    · cases h
    · rw [List.mem_singleton.mp h]
      rfl
  · obtain ⟨kind, -, rfl⟩ := List.mem_map.mp h
    rfl

/-- All rows of a section have the same keys, whatever the player is. -/
theorem keys_rows (h : row ∈ subject.rows kind) : row.map Prod.fst = kind.keys subject.simple := by
  cases kind with
  | metadata =>
    rw [List.mem_singleton.mp h]
    rfl
  | layout => exact keys_layout h _
  | playlist =>
    change row ∈ playlistRows _ _ _ at h
    unfold playlistRows at h
    unfold Kind.keys
    split at h
    · next hsimple =>
      rw [List.mem_singleton.mp h, if_pos hsimple]
      rfl
    · next hsimple =>
      rw [List.mem_singleton.mp h, if_neg hsimple]
      rfl
  | screenTimes => exact keys_standby h _
  | subscriptions => exact keys_subscriptions h _

private theorem layoutRows_ne_nil (player : Player) : layoutRows player ≠ [] := by
  unfold layoutRows
  split
  · next layout _ =>
    split
    · next h =>
      rw [Bool.and_eq_true, Bool.not_eq_true'] at h
      have hzones : layout.zones ≠ [] := List.isEmpty_eq_false_iff.mp h.2
      simpa [Layout.numbered] using hzones
    · exact List.cons_ne_nil _ _
  · exact List.cons_ne_nil _ _

private theorem rows_ne_nil (subject : Subject) (h : kind.isFilled = true) :
    subject.rows kind ≠ [] := by
  cases kind with
  | metadata => exact List.cons_ne_nil _ _
  | layout => exact layoutRows_ne_nil _
  | playlist =>
    change playlistRows _ _ _ ≠ []
    unfold playlistRows
    split <;> exact List.cons_ne_nil _ _
  | screenTimes | subscriptions => cases h

/-- The data of a player whose playlist has another length and other markup to fetch ahead and to
interrupt with, prepared for this markup or not. -/
def Subject.withAhead (subject : Subject) (prefetch exclusive : Content.Markup) (duration : UInt64)
    (simple : Bool) : Subject :=
  { subject with
    player := { subject.player with duration }
    content := { subject.content with prefetch, exclusive }
    simple }

end Signage.Section

namespace Signage.Template
open Section

variable {subject : Subject} {kind : Kind} {row : Row}

private theorem lookup_table (subject : Subject) (kind : Kind) :
    subject.table.lookup kind.name = some (subject.rows kind) := by
  cases kind <;> rfl

private theorem rowsOf_table (subject : Subject) (kind : Kind) :
    rowsOf subject.table kind.name = subject.rows kind := by
  rw [rowsOf, lookup_table]
  rfl

/-- A place in the body of a block that a row has a text for; what is no place has no brace. -/
def BodyPart.Finds (row : Row) : BodyPart → Prop
  | text s => '\x7b' ∉ s
  | key name => ∃ text, row.lookup name = some text

/-- A part of a template that finds everything it asks for in the data: a block its section, and in
all rows of it the texts of its body, and any other tag its text in a first row. -/
def Segment.Finds (table : Table) : Segment → Prop
  | text s => '\x7b' ∉ s
  | block name body => ∃ rows, table.lookup name = some rows ∧
      ∀ row ∈ rows, ∀ part ∈ body, part.Finds row
  | lookup name key => ∃ row rows text, table.lookup name = some (row :: rows) ∧
      row.lookup key = some text

def BodyPart.fits (keys : List String) : BodyPart → Bool
  | text s => !s.contains '\x7b'
  | key name => keys.contains name

/-- The section with the name. -/
def kindOf? (name : String) : Option Kind := Kind.all.find? fun kind => kind.name == name

/-- Whether the keys that a part of a template asks for are those of a section. -/
def Segment.fits (simple : Bool) : Segment → Bool
  | text s => !s.contains '\x7b'
  | block name body =>
    match kindOf? name with
    | some kind => body.all (BodyPart.fits (kind.keys simple))
    | none => false
  | lookup name key =>
    match kindOf? name with
    | some kind => kind.isFilled && (kind.keys simple).contains key
    | none => false

private theorem name_of_kindOf? {name : String} (h : kindOf? name = some kind) :
    kind.name = name := by
  unfold kindOf? at h
  simpa using List.find?_some h

private theorem exists_lookup (hrow : row ∈ subject.rows kind) {key : String}
    (h : (kind.keys subject.simple).contains key = true) : ∃ text, row.lookup key = some text := by
  rw [← keys_rows hrow, List.contains_iff_mem] at h
  obtain ⟨⟨name, text⟩, hmem, rfl⟩ := List.mem_map.mp h
  cases hl : row.lookup name with
  | some text => exact ⟨text, rfl⟩
  | none =>
    rw [List.lookup_eq_none_iff] at hl
    simpa using hl _ hmem

private theorem BodyPart.finds_of_fits {part : BodyPart} (hrow : row ∈ subject.rows kind)
    (h : part.fits (kind.keys subject.simple) = true) : part.Finds row := by
  cases part with
  | text s => simpa [BodyPart.fits, BodyPart.Finds] using h
  | key name => exact exists_lookup hrow h

/-- What fits the keys of the sections finds everything in the sections of every player. -/
theorem Segment.finds_of_fits {segment : Segment} (h : segment.fits subject.simple = true) :
    segment.Finds subject.table := by
  cases segment with
  | text s => simpa [Segment.fits, Segment.Finds] using h
  | block name body =>
    simp only [Segment.fits] at h
    split at h
    · next kind hkind =>
      rw [List.all_eq_true] at h
      refine ⟨subject.rows kind, ?_, fun row hrow part hpart => ?_⟩
      · rw [← name_of_kindOf? hkind, lookup_table]
      · exact BodyPart.finds_of_fits hrow (h part hpart)
    · cases h
  | lookup name key =>
    simp only [Segment.fits] at h
    split at h
    · next kind hkind =>
      rw [Bool.and_eq_true] at h
      obtain ⟨row, rows, hrows⟩ := List.exists_cons_of_ne_nil (rows_ne_nil subject h.1)
      obtain ⟨text, htext⟩ := exists_lookup (hrows ▸ List.mem_cons_self) h.2
      refine ⟨row, rows, text, ?_, htext⟩
      rw [← name_of_kindOf? hkind, lookup_table, hrows]
    · cases h

/-- A text that is put together, and its characters. The characters are told by the way it is put
together, so that no text has to be decoded. -/
inductive Spelled : String → List Char → Prop
  | append {a b : String} {s t : List Char} : Spelled a s → Spelled b t → Spelled (a ++ b) (s ++ t)
  | literal (s : List Char) : Spelled (String.ofList s) s

private theorem Spelled.toList_eq {text : String} {s : List Char} (h : Spelled text s) :
    text.toList = s := by
  induction h with
  | append _ _ iha ihb => rw [String.toList_append, iha, ihb]
  | literal s => exact String.toList_ofList

/-- The characters of several lines, each with its end. -/
inductive SpelledLines : List String → List Char → Prop
  | append {a b : List String} {s t : List Char} :
      SpelledLines a s → SpelledLines b t → SpelledLines (a ++ b) (s ++ t)
  | cons {line : String} {lines : List String} {s t : List Char} :
      Spelled line s → SpelledLines lines t → SpelledLines (line :: lines) (s ++ '\n' :: t)
  | nil : SpelledLines [] []

private theorem SpelledLines.flatMap_eq {lines : List String} {s : List Char}
    (h : SpelledLines lines s) :
    (lines.flatMap fun line => line.toList ++ ['\n']) = s := by
  induction h with
  | append _ _ iha ihb => rw [List.flatMap_append, iha, ihb]
  | cons hline _ ih => simp [hline.toList_eq, ih]
  | nil => rfl

def Segment.isLookup (table key : String) : Segment → Bool
  | lookup other name => other == table && name == key
  | _ => false

/-- Whether all parts fit, and there are places for all fragments that the template is to have. -/
def fitsAll (simple : Bool) (parts : List Segment) : Bool :=
  parts.all (Segment.fits simple) && parts.any (Segment.isLookup "playlist" "items") &&
    (simple || parts.any (Segment.isLookup "playlist" "prefetch") &&
      parts.any (Segment.isLookup "playlist" "exclusive")) &&
    parts.any fun part => part matches .text (_ :: _)

/-- Whether a template has segments, all of which fit. -/
def fitsSource (simple : Bool) (source : List Char) : Bool :=
  match segments source with
  | .ok parts => fitsAll simple parts
  | .error _ => false

private theorem fitsSource_builtin (family : Family) :
    fitsSource (!family.supportsPrefetch) (builtin family) = true := by
  -- Lists of characters are scanned by evaluation, strings are not: the list is built on the way.
  suffices h : ∃ s, SpelledLines (lines (.ofFamily family)) s ∧
      fitsSource (!family.supportsPrefetch) s = true by
    obtain ⟨s, hs, hfits⟩ := h
    rw [builtin, hs.flatMap_eq, hfits]
  cases family
  all_goals exact ⟨_, by repeat constructor, by decide +kernel⟩

/-- The parts of a built-in template. -/
theorem exists_segments (family : Family) : ∃ parts, segments (builtin family) = .ok parts ∧
    fitsAll (!family.supportsPrefetch) parts = true := by
  have h := fitsSource_builtin family
  unfold fitsSource at h
  split at h
  · next parts hparts => exact ⟨parts, hparts, h⟩
  · cases h

private theorem render_builtin {family : Family} {parts : List Segment}
    (h : segments (builtin family) = .ok parts) (table : Table) :
    builtin.render family.name table = .ok (parts.flatMap (Segment.fill table)) := by
  have hsource : renderSource (builtin family) table = .ok (parts.flatMap (Segment.fill table)) := by
    rw [renderSource.eq_def, h]
    rfl
  rw [Sources.render, Family.ofName?_name]
  exact hsource

private theorem infix_of_isLookup {parts : List Segment} {table : Table} {name key : String}
    (h : parts.any (Segment.isLookup name key) = true) :
    textOf ((rowsOf table name).head?.getD []) key <:+: parts.flatMap (Segment.fill table) := by
  obtain ⟨segment, hmem, hlookup⟩ := List.any_eq_true.mp h
  cases segment with
  | text s => cases hlookup
  | block other body => cases hlookup
  | lookup other name' =>
    rw [Segment.isLookup, Bool.and_eq_true, beq_iff_eq, beq_iff_eq] at hlookup
    obtain ⟨rfl, rfl⟩ := hlookup
    exact List.infix_of_mem_flatten (List.mem_map.mpr ⟨_, hmem, rfl⟩)

/-- Two sections agree on some keys if their rows, one by one, have the same texts for these. -/
def AgreeOn (keys : List String) (rows rows' : List Row) : Prop :=
  List.Forall₂ (fun row row' => ∀ key ∈ keys, textOf row key = textOf row' key) rows rows'

private theorem AgreeOn.refl (keys : List String) (rows : List Row) : AgreeOn keys rows rows :=
  List.forall₂_same.mpr fun _ _ _ _ => rfl

private theorem AgreeOn.head {keys : List String} {rows rows' : List Row}
    (h : AgreeOn keys rows rows')
    {key : String} (hkey : key ∈ keys) :
    textOf (rows.head?.getD []) key = textOf (rows'.head?.getD []) key := by
  cases h with
  | nil => rfl
  | cons hrow _ => exact hrow key hkey

private theorem AgreeOn.flatMap_fill {keys : List String} {rows rows' : List Row}
    {body : List BodyPart}
    (h : AgreeOn keys rows rows') (hbody : body.all (BodyPart.fits keys) = true) :
    (rows.flatMap fun row => body.flatMap (BodyPart.fill row)) =
      rows'.flatMap fun row => body.flatMap (BodyPart.fill row) := by
  have hpart {row row' : Row} (hrow : ∀ key ∈ keys, textOf row key = textOf row' key)
      (part : BodyPart) (hmem : part ∈ body) : part.fill row = part.fill row' := by
    have hfits := List.all_eq_true.mp hbody part hmem
    cases part with
    | text s => rfl
    | key name => exact hrow name (List.contains_iff_mem.mp hfits)
  induction h with
  | nil => rfl
  | cons hrow _ ih => rw [List.flatMap_cons, List.flatMap_cons, ih, List.flatMap_congr (hpart hrow)]

/-- What fits some keys of the sections is filled from these keys alone. -/
theorem Segment.fill_congr {other : Subject} {simple : Bool} {segment : Segment}
    (hrows : ∀ kind : Kind, AgreeOn (kind.keys simple) (subject.rows kind) (other.rows kind))
    (h : segment.fits simple = true) : segment.fill subject.table = segment.fill other.table := by
  cases segment with
  | text s => rfl
  | block name body =>
    simp only [Segment.fits] at h
    split at h
    · next kind hkind =>
      rw [← name_of_kindOf? hkind, Segment.fill, Segment.fill, rowsOf_table, rowsOf_table]
      exact (hrows kind).flatMap_fill h
    · cases h
  | lookup name key =>
    simp only [Segment.fits] at h
    split at h
    · next kind hkind =>
      rw [Bool.and_eq_true, List.contains_iff_mem] at h
      rw [← name_of_kindOf? hkind, Segment.fill, Segment.fill, rowsOf_table, rowsOf_table]
      exact (hrows kind).head h.2
    · cases h

/-- Sections differ in nothing that a template without places for prefetch markup asks for, however
long the playlist is, whatever is to be fetched ahead, and even if that is prepared. -/
theorem agreeOn_withAhead (subject : Subject) (prefetch exclusive : Content.Markup)
    (duration : UInt64) (simple : Bool) (kind : Kind) :
    AgreeOn (kind.keys true) (subject.rows kind)
      ((subject.withAhead prefetch exclusive duration simple).rows kind) := by
  obtain ⟨player, content, targets, simple', today⟩ := subject
  cases kind with
  | metadata | layout | screenTimes | subscriptions => exact .refl _ _
  | playlist =>
    cases simple <;> cases simple' <;>
    · refine .cons (fun key hkey => ?_) .nil
      rw [List.mem_singleton.mp hkey]
      rfl

/-- A document that the built-in template of a family makes of the data of a player. All that the
template asks for is there, the fragments are in the document as they are, and those that the template
has no places for make no difference. -/
structure Complete (family : Family) (subject : Subject) (parts : List Segment)
    (document : List Char) : Prop where
  source : segments (builtin family) = .ok parts
  finds : ∀ part ∈ parts, part.Finds subject.table
  renders : builtin.render family.name subject.table = .ok document
  filled : document ≠ []
  items : subject.content.items <:+: document
  ahead : family.supportsPrefetch = true →
    subject.content.prefetch <:+: document ∧ subject.content.exclusive <:+: document
  alone : family.supportsPrefetch = false → ∀ prefetch exclusive duration simple,
    builtin.render family.name (subject.withAhead prefetch exclusive duration simple).table =
      .ok document

private theorem fill_items (subject : Subject) :
    textOf ((rowsOf subject.table "playlist").head?.getD []) "items" = subject.content.items := by
  obtain ⟨player, content, targets, simple, today⟩ := subject
  cases simple <;> rfl

private theorem fill_ahead {subject : Subject} (h : subject.simple = false) :
    textOf ((rowsOf subject.table "playlist").head?.getD []) "prefetch" = subject.content.prefetch ∧
      textOf ((rowsOf subject.table "playlist").head?.getD []) "exclusive" =
        subject.content.exclusive := by
  obtain ⟨player, content, targets, simple, today⟩ := subject
  cases h
  exact ⟨rfl, rfl⟩

private theorem flatMap_fill_ne_nil {parts : List Segment} (table : Table)
    (h : (parts.any fun part => part matches .text (_ :: _)) = true) :
    parts.flatMap (Segment.fill table) ≠ [] := by
  obtain ⟨segment, hmem, hsegment⟩ := List.any_eq_true.mp h
  intro hnil
  have hfill := List.flatMap_eq_nil_iff.mp hnil segment hmem
  match segment, hsegment with
  | .text (c :: s), _ => cases hfill

private theorem exists_complete (family : Family) {subject : Subject}
    (h : subject.simple = !family.supportsPrefetch) :
    ∃ parts document, Complete family subject parts document := by
  obtain ⟨parts, hparts, hfits⟩ := exists_segments family
  simp only [fitsAll, Bool.and_eq_true, Bool.or_eq_true, List.all_eq_true] at hfits
  obtain ⟨⟨⟨hall, hitems⟩, hfragments⟩, htext⟩ := hfits
  refine ⟨parts, _, hparts, fun part hpart => ?_, render_builtin hparts subject.table,
    flatMap_fill_ne_nil _ htext, ?_, fun hprefetch => ?_, fun hprefetch => ?_⟩
  · exact Segment.finds_of_fits (h ▸ hall part hpart)
  · exact fill_items subject ▸ infix_of_isLookup hitems
  · obtain ⟨hahead, hexclusive⟩ := hfragments.resolve_left (by simp [hprefetch])
    obtain ⟨hfill, hfill'⟩ := fill_ahead (h.trans (by simp [hprefetch]))
    exact ⟨hfill ▸ infix_of_isLookup hahead, hfill' ▸ infix_of_isLookup hexclusive⟩
  · intro prefetch exclusive duration simple
    rw [hprefetch] at hall
    rw [render_builtin hparts]
    refine congrArg Except.ok (List.flatMap_congr fun part hpart => ?_)
    exact (Segment.fill_congr (agreeOn_withAhead subject prefetch exclusive duration simple)
      (hall part hpart)).symm

end Signage.Template

namespace Signage.Index
open Template Section Files.Work

/-- The template that is selected for a player fits the sections that are prepared for it, whatever
the player, its playlist, the addresses and the date are. So a compilation with the built-in templates
always has something to publish, also where content cannot be read. -/
theorem builtin_templates_fit (player : Player) (content : Content.Composition) (targets : Targets)
    (today : Calendar.Date) :
    let family := select player.model player.firmware.toList
    (∃ parts document,
      Complete family ⟨player, content, targets, !family.supportsPrefetch, today⟩ parts document) ∧
    ∀ directory limits sources outages (now : Calendar.Clock) fs,
      let compiler : Compiler := ⟨directory, limits, builtin, targets⟩
      (∀ path, (publish outages now.moment path (compiler.document sources now.date player)).Leads fs
        fun answer _ => answer ≠ .ok .stale ∧ ∀ path, answer ≠ .error (.noIndex path)) ∧
      (compiler.compile outages sources now player).Leads fs
        fun answer _ => ∀ path, answer ≠ .error (.noIndex path) := by
  intro family
  refine ⟨exists_complete family rfl, fun directory limits sources outages now fs => ?_⟩
  intro compiler
  have hdocument : compiler.document sources now.date player ≠ [] := by
    have hsimple : (compiler.subject sources now.date player).simple = !family.supportsPrefetch := rfl
    obtain ⟨_, document, hcomplete⟩ := exists_complete family hsimple
    have hrenders : compiler.templates.render family.name
        (compiler.subject sources now.date player).table = .ok document := hcomplete.renders
    rw [Compiler.document, hrenders]
    exact hcomplete.filled
  refine ⟨fun path => publish_leads_of_ne_nil hdocument, ?_⟩
  unfold Compiler.compile
  split
  · next error herror =>
    unfold indexPath at herror
    split at herror
    · cases herror
    · cases herror
      exact leads_throw (by simp)
  · refine leads_bind ((publish_leads_of_ne_nil hdocument).mono fun answer fs' h => ?_)
    rcases answer with error | outcome
    · simpa using h.2
    · exact leads_pure (by simp)

end Signage.Index
