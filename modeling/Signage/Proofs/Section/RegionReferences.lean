import Mathlib.Data.List.Nodup
import Mathlib.Tactic.Push
import Signage.Content.Composition
import Signage.Proofs.Content.RegionNames
import Signage.Section.Regions

/-!
The layout of an index names the regions that its markup refers to: both number the zones of a
player alike, and both show a single screen where zones are not played.
-/
namespace Signage

private theorem Layout.getElem?_numbered (layout : Layout) (k : Nat) :
    layout.numbered[k]? = layout.zones[k]?.map fun zone => (ZoneId.ofIndex k, zone) := by
  simp [numbered, Function.comp_def]

private theorem Layout.length_numbered (layout : Layout) :
    layout.numbered.length = layout.zones.length := by
  simp [numbered]

private theorem ZoneId.ofIndex_inj {i j : Nat} (hi : i < 2 ^ 32) (hj : j < 2 ^ 32) :
    ofIndex i = ofIndex j ↔ i = j := by
  refine ⟨fun h => ?_, congrArg ofIndex⟩
  have hn : (UInt32.ofNat i + 1).toNat = (UInt32.ofNat j + 1).toNat :=
    congrArg (fun id => id.value.toNat) h
  rw [UInt32.toNat_add, UInt32.toNat_add, UInt32.toNat_ofNat', UInt32.toNat_ofNat'] at hn
  change (i % 2 ^ 32 + 1) % 2 ^ 32 = (j % 2 ^ 32 + 1) % 2 ^ 32 at hn
  omega

private theorem ZoneId.numeral_injective : Function.Injective numeral := by
  rintro ⟨m⟩ ⟨n⟩ h
  have hn : m.toNat = n.toNat := Text.numeral_injective h
  rw [UInt32.toNat_inj.mp hn]

namespace Content

/-- What each zone adds to the items. -/
def itemParts (resolve : Resolver) (player : Player) : List Markup :=
  (playedZones player).map fun (zone, playlist) => zoneItems zone (resolve .items playlist)

/-- What each zone adds to the exclusive markup. -/
def exclusiveParts (resolve : Resolver) (player : Player) : List Markup :=
  (playedZones player).map fun (zone, playlist) => zoneExclusive zone (resolve .exclusive playlist)

end Content

namespace Section
open Content
variable {resolve : Resolver} {player : Player} {layout : Layout} {markup : Markup}

/-- The markup refers to no region but the screen. -/
def OnlyScreen (markup : Markup) : Prop := ∀ name, Refers markup name → name = screenName

/-- What is resolved for the player refers to no region but the screen. -/
def ResolvesOnlyScreen (resolve : Resolver) (player : Player) : Prop :=
  ∀ id ∈ resolvedPlaylists player,
    OnlyScreen (resolve .items id) ∧ OnlyScreen (resolve .exclusive id)

/-- The name of the region that the row is for. -/
def regionName? (row : Row) : Option (List Char) := row.lookup "region_name"

/-- Every reference in the part is to the region of the row, and the part has references where the
markup that it was made from has. -/
def RefersToRow (row : Row) (part markup : Markup) : Prop :=
  ∀ name, Refers part name ↔ regionName? row = some name ∧ Refers markup screenName

/-- Each zone of the layout has a row, and the part that it adds to the markup refers to that. -/
structure ZonesAgree (resolve : Resolver) (player : Player) (layout : Layout) : Prop where
  items_eq : (compose resolve player).items = (itemParts resolve player).flatten
  exclusive_eq : (compose resolve player).exclusive = (exclusiveParts resolve player).flatten
  length_rows : (layoutRows player).length = layout.zones.length
  length_items : (itemParts resolve player).length = layout.zones.length
  length_exclusive : (exclusiveParts resolve player).length = layout.zones.length
  refers : ∀ (k : Nat) (zone : Zone), layout.zones[k]? = some zone →
    ∃ row, (layoutRows player)[k]? = some row ∧
      (∃ part, (itemParts resolve player)[k]? = some part ∧
        RefersToRow row part (resolve .items zone.playlist)) ∧
      ∃ part, (exclusiveParts resolve player)[k]? = some part ∧
        RefersToRow row part (resolve .exclusive zone.playlist)

/-- The one row of the layout is what the composed markup refers to. -/
def ScreenAgrees (resolve : Resolver) (player : Player) : Prop :=
  ∃ row, layoutRows player = [row] ∧
    RefersToRow row (compose resolve player).items (resolve .items player.playlistId) ∧
    RefersToRow row (compose resolve player).exclusive (resolve .exclusive player.playlistId)

/-- The regions of the layout and the references in the markup go together. -/
structure RegionsAgree (resolve : Resolver) (player : Player) : Prop where
  exists_region : layoutRows player ≠ []
  named : ∀ row ∈ layoutRows player, regionName? row ≠ none
  distinct : (player.isMultizone = true → ∀ layout ∈ player.zones, layout.zones.length < 2 ^ 32) →
    ((layoutRows player).map regionName?).Nodup
  zones : ResolvesOnlyScreen resolve player → player.isMultizone = true →
    ∀ layout ∈ player.zones, layout.zones ≠ [] → ZonesAgree resolve player layout
  screen : ResolvesOnlyScreen resolve player → player.isMultizone = false →
    ScreenAgrees resolve player
  empty : player.isMultizone = true → (∀ layout ∈ player.zones, layout.zones = []) →
    compose resolve player = .empty

private theorem not_blank_of_mem_screenName (zone : List Char)
    (hz : ∀ c ∈ zone, c.isDigit = true) :
    ∀ c ∈ screenName ++ zone, Text.isBlank c = false := by
  rw [List.forall_mem_append]
  exact ⟨Text.not_blank_of_all (by decide), fun c hc => Text.isBlank_eq_false_of_isDigit (hz c hc)⟩

/-- Where a scan of the part finds what it finds in the markup, with a number behind each name, all
references are to the numbered screen. -/
private theorem refers_iff {part : Markup} (number : List Char) (name : List Char)
    (hdigits : ∀ c ∈ number, c.isDigit = true) (honly : OnlyScreen markup)
    (hscan : regionNames part = (regionNames markup).map (· ++ number)) :
    Refers part name ↔ screenName ++ number = name ∧ Refers markup screenName := by
  have hfound : ∀ found ∈ regionNames markup, found = screenName := fun found hf =>
    honly found (refers_of_mem_regionNames hf)
  have hmarkup : ∀ found ∈ regionNames markup, ∀ c ∈ found, Text.isBlank c = false := by
    intro found hf
    rw [hfound found hf]
    exact Text.not_blank_of_all (by decide)
  have hpart : ∀ found ∈ regionNames part, ∀ c ∈ found, Text.isBlank c = false := by
    intro found hf
    rw [hscan, List.mem_map] at hf
    obtain ⟨found, hf, rfl⟩ := hf
    rw [hfound found hf]
    exact not_blank_of_mem_screenName number hdigits
  rw [← mem_regionNames_iff hpart, ← mem_regionNames_iff hmarkup, hscan, List.mem_map]
  constructor
  · rintro ⟨found, hf, rfl⟩
    cases hfound found hf
    exact ⟨rfl, hf⟩
  · rintro ⟨rfl, hf⟩
    exact ⟨screenName, hf, rfl⟩

private theorem isDigit_of_mem_numeral {id : ZoneId} : ∀ c ∈ id.numeral, c.isDigit = true :=
  fun _ hc => Text.isDigit_of_mem_numeral hc

private theorem regionName?_zoneRow (canvas : Canvas) (layout : Layout) (id : ZoneId)
    (zone : Zone) :
    regionName? (zoneRow canvas layout id zone) = some (screenName ++ id.numeral) := rfl

private theorem regionName?_fullScreenRow (canvas : Canvas) :
    regionName? (fullScreenRow canvas) = some screenName := rfl

private theorem refersToRow_zoneItems (canvas : Canvas) (layout : Layout) (id : ZoneId)
    (zone : Zone)
    (honly : OnlyScreen markup) :
    RefersToRow (zoneRow canvas layout id zone) (zoneItems id markup) markup := by
  intro name
  rw [regionName?_zoneRow, Option.some.injEq]
  exact refers_iff id.numeral name isDigit_of_mem_numeral honly (regionNames_zoneItems id markup)

private theorem refersToRow_zoneExclusive (canvas : Canvas) (layout : Layout) (id : ZoneId)
    (zone : Zone) (honly : OnlyScreen markup) :
    RefersToRow (zoneRow canvas layout id zone) (zoneExclusive id markup) markup := by
  intro name
  rw [regionName?_zoneRow, Option.some.injEq]
  exact refers_iff id.numeral name isDigit_of_mem_numeral honly (regionNames_renameRegions id markup)

private theorem refersToRow_screen {part : Markup} (canvas : Canvas) (honly : OnlyScreen markup)
    (hscan : regionNames part = regionNames markup) :
    RefersToRow (fullScreenRow canvas) part markup := by
  intro name
  rw [regionName?_fullScreenRow, Option.some.injEq]
  have hsame : regionNames part = (regionNames markup).map (· ++ []) := by simp [hscan]
  have h := refers_iff [] name (fun c hc => by cases hc) honly hsame
  rwa [List.append_nil] at h

private theorem layoutRows_of_zones (hmulti : player.isMultizone = true)
    (hlayout : player.zones = some layout)
    (hne : layout.zones ≠ []) :
    layoutRows player = layout.numbered.map fun (id, zone) =>
      zoneRow player.canvas layout id zone := by
  simp [layoutRows, hlayout, hmulti, hne]

private theorem layoutRows_of_screen
    (h : player.isMultizone = true → ∀ layout ∈ player.zones, layout.zones = []) :
    layoutRows player = [fullScreenRow player.canvas] := by
  unfold layoutRows
  split
  case h_1 layout hlayout =>
    cases hmulti : player.isMultizone with
    | false => simp
    | true => simp [h hmulti layout hlayout]
  case h_2 => rfl

/-- The rows of a layout, at the places of its zones. -/
private theorem getElem?_layoutRows (hmulti : player.isMultizone = true)
    (hlayout : player.zones = some layout) (hne : layout.zones ≠ []) (k : Nat) :
    (layoutRows player)[k]? =
      layout.zones[k]?.map fun zone => zoneRow player.canvas layout (.ofIndex k) zone := by
  rw [layoutRows_of_zones hmulti hlayout hne, List.getElem?_map, Layout.getElem?_numbered,
    Option.map_map]
  rfl

private theorem map_regionName?_layoutRows (hmulti : player.isMultizone = true)
    (hlayout : player.zones = some layout) (hne : layout.zones ≠ []) :
    (layoutRows player).map regionName? =
      (List.range layout.zones.length).map fun k =>
        some (screenName ++ (ZoneId.ofIndex k).numeral) := by
  apply List.ext_getElem?
  intro k
  rw [List.getElem?_map, getElem?_layoutRows hmulti hlayout hne, List.getElem?_map]
  by_cases hk : k < layout.zones.length
  · rw [List.getElem?_eq_getElem hk, List.getElem?_range hk]
    rfl
  · rw [List.getElem?_eq_none (Nat.le_of_not_lt hk),
      List.getElem?_eq_none (by simpa using Nat.le_of_not_lt hk)]
    rfl

private theorem nodup_regionNames (hmulti : player.isMultizone = true)
    (hlayout : player.zones = some layout) (hne : layout.zones ≠ [])
    (hlt : layout.zones.length < 2 ^ 32) : ((layoutRows player).map regionName?).Nodup := by
  rw [map_regionName?_layoutRows hmulti hlayout hne]
  refine List.Nodup.map_on ?_ List.nodup_range
  intro i hi j hj h
  rw [List.mem_range] at hi hj
  have hnumeral := List.append_cancel_left (Option.some.inj h)
  have hid := ZoneId.numeral_injective hnumeral
  exact (ZoneId.ofIndex_inj (Nat.lt_trans hi hlt) (Nat.lt_trans hj hlt)).mp hid

private theorem playedZones_eq (hlayout : player.zones = some layout) :
    playedZones player = layout.numbered.map fun (id, zone) => (id, zone.playlist) := by
  rw [playedZones, hlayout]

private theorem getElem?_playedZones (hlayout : player.zones = some layout) (k : Nat) :
    (playedZones player)[k]? =
      layout.zones[k]?.map fun zone => (ZoneId.ofIndex k, zone.playlist) := by
  rw [playedZones_eq hlayout, List.getElem?_map, Layout.getElem?_numbered, Option.map_map]
  rfl

private theorem length_playedZones (hlayout : player.zones = some layout) :
    (playedZones player).length = layout.zones.length := by
  rw [playedZones_eq hlayout, List.length_map, Layout.length_numbered]

private theorem zonesAgree (honly : ResolvesOnlyScreen resolve player)
    (hmulti : player.isMultizone = true) (hlayout : player.zones = some layout)
    (hne : layout.zones ≠ []) : ZonesAgree resolve player layout where
  items_eq := by
    rw [compose, if_pos hmulti]
    exact List.flatMap_def ..
  exclusive_eq := by
    rw [compose, if_pos hmulti]
    exact List.flatMap_def ..
  length_rows := by
    rw [layoutRows_of_zones hmulti hlayout hne, List.length_map, Layout.length_numbered]
  length_items := by rw [itemParts, List.length_map, length_playedZones hlayout]
  length_exclusive := by rw [exclusiveParts, List.length_map, length_playedZones hlayout]
  refers := by
    intro k zone hk
    have hplayed : (playedZones player)[k]? = some (.ofIndex k, zone.playlist) := by
      rw [getElem?_playedZones hlayout, hk]
      rfl
    have hresolved : zone.playlist ∈ resolvedPlaylists player := by
      rw [resolvedPlaylists, if_pos hmulti]
      exact List.mem_map_of_mem (List.mem_of_getElem? hplayed)
    obtain ⟨hitems, hexclusive⟩ := honly _ hresolved
    refine ⟨zoneRow player.canvas layout (.ofIndex k) zone, ?_,
      ⟨zoneItems (.ofIndex k) (resolve .items zone.playlist), ?_, ?_⟩,
      zoneExclusive (.ofIndex k) (resolve .exclusive zone.playlist), ?_, ?_⟩
    · rw [getElem?_layoutRows hmulti hlayout hne, hk]
      rfl
    · rw [itemParts, List.getElem?_map, hplayed]
      rfl
    · exact refersToRow_zoneItems _ _ _ _ hitems
    · rw [exclusiveParts, List.getElem?_map, hplayed]
      rfl
    · exact refersToRow_zoneExclusive _ _ _ _ hexclusive

private theorem screenAgrees (honly : ResolvesOnlyScreen resolve player)
    (hsingle : player.isMultizone = false) : ScreenAgrees resolve player := by
  have hresolved : player.playlistId ∈ resolvedPlaylists player := by
    simp [resolvedPlaylists, hsingle]
  obtain ⟨hitems, hexclusive⟩ := honly _ hresolved
  have hmedia : ∀ c ∈ mediaId, Text.isBlank c = false := Text.not_blank_of_all (by decide)
  have hcompose : compose resolve player = composeSingle resolve player.playlistId := by
    simp [compose, hsingle]
  refine ⟨fullScreenRow player.canvas, layoutRows_of_screen (by simp [hsingle]), ?_, ?_⟩
  · rw [hcompose]
    exact refersToRow_screen _ hitems (regionNames_wrapSequence hmedia _)
  · rw [hcompose]
    exact refersToRow_screen _ hexclusive rfl

private theorem playedZones_eq_nil (h : ∀ layout ∈ player.zones, layout.zones = []) :
    playedZones player = [] := by
  cases hlayout : player.zones with
  | none => rw [playedZones, hlayout]
  | some layout =>
    rw [playedZones_eq hlayout, Layout.numbered, h layout hlayout]
    rfl

/-- A layout has the rows of its zones, or the one row of the screen. -/
private theorem layoutRows_cases (player : Player) :
    (∃ layout, player.isMultizone = true ∧ player.zones = some layout ∧ layout.zones ≠ []) ∨
      layoutRows player = [fullScreenRow player.canvas] := by
  by_cases h : player.isMultizone = true → ∀ layout ∈ player.zones, layout.zones = []
  · exact .inr (layoutRows_of_screen h)
  · push Not at h
    obtain ⟨hmulti, layout, hlayout, hne⟩ := h
    exact .inl ⟨layout, hmulti, hlayout, hne⟩

/-- Whatever is stored, the layout has the regions that the composed markup refers to. -/
theorem regions_agree (limits : Limits) (sources : Sources) (player : Player) :
    RegionsAgree (resolver limits sources) player where
  exists_region := by
    rcases layoutRows_cases player with ⟨layout, hmulti, hlayout, hne⟩ | h
    · rw [layoutRows_of_zones hmulti hlayout hne]
      simp [Layout.numbered, hne]
    · rw [h]
      exact List.cons_ne_nil _ _
  named := by
    intro row hrow
    rcases layoutRows_cases player with ⟨layout, hmulti, hlayout, hne⟩ | h
    · rw [layoutRows_of_zones hmulti hlayout hne, List.mem_map] at hrow
      obtain ⟨⟨id, zone⟩, -, rfl⟩ := hrow
      exact Option.some_ne_none _
    · rw [h, List.mem_singleton] at hrow
      rw [hrow]
      exact Option.some_ne_none _
  distinct := by
    intro hlt
    rcases layoutRows_cases player with ⟨layout, hmulti, hlayout, hne⟩ | h
    · exact nodup_regionNames hmulti hlayout hne (hlt hmulti layout hlayout)
    · rw [h]
      exact List.nodup_singleton _
  zones := fun honly hmulti _ hlayout hne => zonesAgree honly hmulti hlayout hne
  screen := screenAgrees
  empty := by
    intro hmulti h
    rw [compose, if_pos hmulti, playedZones_eq_nil h]
    rfl

end Section
end Signage
