import MapMetrics.Proofs.Json.Shape
import MapMetrics.Proofs.Loading.Offences
import MapMetrics.Proofs.Yaml.Shape

/-!
# What is there and not filled

A document of a file, its sections and the counters of its maps may be of a wrong kind. What is
filled is then always refused, as a matter of the configuration. What is not filled is taken for an
empty one of the right kind, whatever kind it is of; so an empty list loads as an empty snapshot,
although it is no snapshot for anybody who is not reading it from a file.
-/

namespace MapMetrics

/-- Every document that is read from a file has the shape of documents. -/
theorem DocumentFormat.shaped_of_read {format : DocumentFormat} {octets : List UInt8} {v : Value}
    (h : format.read octets = .ok v) : v.Shaped false := by
  cases format with
  | json =>
    rw [DocumentFormat.read] at h
    cases hdecoded : Text.Utf8.decode octets with
    | error e => rw [hdecoded] at h; cases h
    | ok text =>
      rw [hdecoded] at h
      change (Json.read _).mapError _ = _ at h
      cases hread : Json.read (Text.unifyLineEnds text) with
      | error e => rw [hread] at h; cases h
      | ok document =>
        rw [hread] at h
        exact Except.ok.inj h ▸ Json.shaped_of_read hread
  | yaml =>
    rw [DocumentFormat.read] at h
    cases hread : Yaml.read (Yaml.Feed.ofOctets octets) with
    | error e => rw [hread] at h; cases h
    | ok document =>
      rw [hread] at h
      exact Except.ok.inj h ▸ Yaml.shaped_of_read hread

namespace Snapshot

open Value

/-- The loader of snapshots goes on with the document that stands at the path. -/
theorem readDocument_of_readFile {files : Files} {path : String} {d : Value}
    (h : (readFile files path).result = .ok d) : readDocument files path = .ok d := by
  rw [readFile] at h
  split at h
  · cases h
  · cases h
  · dsimp only at h
    split at h
    · cases h
    · split at h <;> cases h
  · case h_4 document hread => exact hread.trans (congrArg Except.ok (Except.ok.inj h))

theorem shaped_of_readFile {files : Files} {path : String} {d : Value}
    (h : (readFile files path).result = .ok d) : d.Shaped false := by
  have hread := readDocument_of_readFile h
  rw [readDocument] at hread
  split at hread
  · cases hread
  · cases hread
  · cases hread
  · case h_4 octets stands =>
    split at hread
    · cases hread
    · case h_2 format named =>
      cases hformat : Library.read format octets with
      | error m => rw [hformat] at hread; cases hread
      | ok v =>
        rw [hformat] at hread
        exact Except.ok.inj hread ▸ DocumentFormat.shaped_of_read hformat

/-! ## Sections -/

section Sections

variable {v : Value} {entries : List (Value × Value)}

/-- What is filled has elements. -/
theorem elements_ne_nil (hshape : v.Shaped false) (hfilled : v.isFilled = true)
    {es : List Value} (h : elements v = .ok es) : es ≠ [] := by
  rw [← hshape.opened.2] at hfilled
  rintro rfl
  rw [elements] at h
  cases hv : v.opened <;> simp_all [isFilled]

/-- The elements of what is no list are no mappings. -/
theorem element_ne_mapping (hshape : v.Shaped false) (hlist : ∀ items, v.opened ≠ .list items)
    {es : List Value} (h : elements v = .ok es) {e : Value} (he : e ∈ es)
    (fields : List (Value × Value)) : e.opened ≠ .mapping fields := by
  have hscalar {k : Value} (hk : k.isScalar = true) : k.opened ≠ .mapping fields := by
    rw [opened_of_isScalar hk]
    rintro rfl
    cases hk
  have hopened := hshape.opened.1
  rw [elements] at h
  cases hv : v.opened with
  | list items => exact absurd hv (hlist items)
  | pair a b =>
    rw [hv] at hopened
    cases hopened with
    | scalar hscalar => cases hscalar
  | set keys =>
    rw [hv] at h hopened
    cases hopened with
    | scalar hscalar => cases hscalar
    | set hkeys =>
      obtain rfl := Except.ok.inj h
      exact hscalar (hkeys e he)
  | mapping given =>
    rw [hv] at h hopened
    cases hopened with
    | scalar hscalar => cases hscalar
    | mapping hkeys _ =>
      obtain rfl := Except.ok.inj h
      obtain ⟨entry, hentry, rfl⟩ := List.mem_map.mp he
      exact hscalar (hkeys entry hentry)
  | text s =>
    rw [hv] at h
    obtain rfl := Except.ok.inj h
    obtain ⟨c, -, rfl⟩ := List.mem_map.mp he
    simp [opened]
  | bytes octets =>
    rw [hv] at h
    obtain rfl := Except.ok.inj h
    obtain ⟨b, -, rfl⟩ := List.mem_map.mp he
    simp [opened]
  | _ =>
    rw [hv] at h
    cases h

/-- A section that is filled and no list cannot be gone through, or its first element is no
mapping. -/
theorem sectionElements_of_filled {name : String} (hgiven : field? name entries = some v)
    (hshape : v.Shaped false) (hfilled : v.isFilled = true)
    (hlist : ∀ items, v.opened ≠ .list items) :
    (∃ m, sectionElements name entries = .error m) ∨
      ∃ e rest, sectionElements name entries = .ok (e :: rest) ∧
        ∀ fields, e.opened ≠ .mapping fields := by
  have hsection : sectionElements name entries = elements v := by
    rw [sectionElements, hgiven, Option.getD_some, orElse, if_pos hfilled]
  rw [hsection]
  cases h : elements v with
  | error m => exact .inl ⟨m, rfl⟩
  | ok es =>
    cases es with
    | nil => exact absurd rfl (elements_ne_nil hshape hfilled h)
    | cons e rest =>
      exact .inr ⟨e, rest, rfl, element_ne_mapping hshape hlist h List.mem_cons_self⟩

/-- So it has a place that does not fit. -/
theorem exists_offends_of_filled {name : String} (hname : name = "maps" ∨ name = "objects")
    (hgiven : field? name entries = some v) (hshape : v.Shaped false)
    (hfilled : v.isFilled = true) (hlist : ∀ items, v.opened ≠ .list items) :
    ∃ place m, Offends entries place m := by
  obtain ⟨m, hm⟩ | ⟨e, rest, hes, he⟩ := sectionElements_of_filled hgiven hshape hfilled hlist
  · obtain rfl | rfl := hname
    · exact ⟨.maps, m, .maps ((lists_iff _ _ _).mpr hm)⟩
    · exact ⟨.objects, m, .objects ((lists_iff _ _ _).mpr hm)⟩
  · obtain rfl | rfl := hname
    · exact ⟨.map 0, _, .map ((lists_iff _ _ _).mpr hes) rfl (.unsubscriptable he)⟩
    · exact ⟨.object 0, _, .object ((lists_iff _ _ _).mpr hes) rfl (.unsubscriptable he)⟩

/-- A section that is not filled is an empty one. -/
theorem sectionElements_of_unfilled {name : String} (hgiven : field? name entries = some v)
    (hunfilled : v.isFilled = false) : sectionElements name entries = .ok [] := by
  rw [sectionElements, hgiven, Option.getD_some, orElse, hunfilled]
  rfl

theorem sectionElements_insert (name other : String) (es : List Value) :
    sectionElements other (insert (.text name) (.list es) entries) =
      if other = name then .ok es else sectionElements other entries := by
  rw [sectionElements, field?_insert]
  split
  · cases es <;> rfl
  · rfl

end Sections

/-! ## Counters -/

section Counters

variable {entry v : Value} {fields : List (Value × Value)}

/-- Counters that are filled and no mapping are no counters. -/
theorem mapIn_of_filled (hentry : entry.opened = .mapping fields)
    (hgiven : field? "stats" fields = some v) (hfilled : v.isFilled = true)
    (hmapping : ∀ counters, v.opened ≠ .mapping counters) : ∃ m, mapIn entry = .error m := by
  have hstats : statsPart entry = v := by
    rw [statsPart, hentry]
    change ((field? "stats" fields).getD .null).orElse (.mapping []) = v
    rw [hgiven, Option.getD_some, orElse, if_pos hfilled]
  cases hread : mapIn entry with
  | error m => exact ⟨m, rfl⟩
  | ok found =>
    cases (describesMap_iff entry _).mpr hread with
    | map opened given read counted =>
      rw [← show statsPart entry = countersIn _ by rw [statsPart, opened]; rfl, hstats] at counted
      obtain ⟨counters, hv, -⟩ := Field.closedRecord_eq_valid_iff.mp counted
      exact absurd hv (hmapping counters)

/-- Counters that are not filled are those of a map that nothing has been done to. -/
theorem addMap_of_unfilled (hentry : entry.opened = .mapping fields)
    (hgiven : field? "stats" fields = some v) (hunfilled : v.isFilled = false) (c : Cluster) :
    addMap c entry = addMap c (.mapping (insert (.text "stats") (.mapping []) fields)) := by
  have hconfig : part "config" entry =
      part "config" (.mapping (insert (.text "stats") (.mapping []) fields)) := by
    rw [part_of_mapping hentry, part_of_mapping rfl, field?_insert]
    rfl
  have hstats : statsPart entry =
      statsPart (.mapping (insert (.text "stats") (.mapping []) fields)) := by
    rw [statsPart, hentry]
    change ((field? "stats" fields).getD .null).orElse _ =
      ((field? "stats" (insert (.text "stats") (.mapping []) fields)).getD .null).orElse _
    rw [hgiven, field?_insert, if_pos rfl, Option.getD_some, orElse, hunfilled]
    rfl
  rw [addMap, addMap, hconfig, hstats]

end Counters

/-! ## Documents -/

/-- A value that is not filled is no mapping other than the empty one. -/
theorem opened_ne_mapping_of_unfilled {d : Value} (hunfilled : d.isFilled = false)
    (hd : d ≠ .mapping []) (entries : List (Value × Value)) : d.opened ≠ .mapping entries := by
  intro hopened
  cases d with
  | mapping fields =>
    cases fields with
    | nil => exact hd rfl
    | cons e rest => cases hunfilled
  | knot label inside => cases hunfilled
  | _ => cases hopened

theorem toCluster_of_opened {d : Value} {entries : List (Value × Value)}
    (hd : d.opened = .mapping entries) (service : String) :
    toCluster d service = toCluster (.mapping entries) service := by
  rw [toCluster, hd]
  rfl

/-- What is no mapping is no snapshot. -/
theorem toCluster_of_not_mapping {d : Value} (h : ∀ entries, d.opened ≠ .mapping entries)
    (service : String) :
    (toCluster d service).result =
      .error ⟨.misconfigured "Cluster snapshot must be a mapping", none⟩ := by
  rw [result_toCluster, contents]
  cases hd : d.opened with
  | mapping entries => exact absurd hd (h entries)
  | _ => rfl

/-- A document with a place that does not fit is refused as a matter of the configuration. -/
theorem toCluster_of_offends {d : Value} {entries : List (Value × Value)} {place : Place}
    {m : Mishap} (hd : d.opened = .mapping entries) (h : Offends entries place m)
    (service : String) :
    ∃ r, (toCluster d service).result = .error r ∧ r.failure.isConfiguration = true := by
  rw [result_toCluster]
  cases hk : contents d with
  | error r => exact ⟨r, rfl, isConfiguration_of_contents_error hk⟩
  | ok k =>
    rw [contents, hd] at hk
    change (contentsIn entries).mapError malformedBy = _ at hk
    cases hfound : contentsIn entries with
    | error m => rw [hfound] at hk; cases hk
    | ok found => exact absurd h (not_offends_of_contentsIn hfound place m)

private theorem step_ok_bind {α β : Type} (a : α) (f : α → Journal β) : step (.ok a) >>= f = f a :=
  rfl

/-- The map of an entry is registered as that of another one that does the same. -/
private theorem foldlM_replace {c : Cluster} {entry other : Value}
    (h : ∀ c, addMap c entry = addMap c other) (before after : List Value) :
    (before ++ entry :: after).foldlM addMap c = (before ++ other :: after).foldlM addMap c := by
  induction before generalizing c with
  | nil => rw [List.nil_append, List.nil_append, List.foldlM_cons, List.foldlM_cons, h]
  | cons e rest ih =>
    rw [List.cons_append, List.cons_append, List.foldlM_cons, List.foldlM_cons]
    exact bind_congr fun c => ih

/-- A document and the file that holds it are refused alike, as a matter of the configuration. -/
def RefusedFrom (files : Files) (path service : String) (d : Value) : Prop :=
  ∃ r, (toCluster d service).result = .error r ∧ (load files path service).result = .error r ∧
    r.failure.isConfiguration = true

/-- A file that holds a document is loaded as the document is, up to documents that are not filled.
A document that is no mapping is refused, but from a file only if it is filled: otherwise the file
loads as an empty cluster. In the same way a section that is no list, and counters of a map that are
no mapping, are refused if they are filled, and otherwise they are taken for empty ones. -/
theorem load_of_filled {files : Files} {path : String} {d : Value} (service : String)
    (h : (readFile files (Path.plain path)).result = .ok d) :
    (d.isFilled = true ∨ d = .mapping [] →
      load files path service = ⟨(toCluster d service).result,
        (readFile files (Path.plain path)).events ++ (toCluster d service).events⟩) ∧
    ((∀ entries, d.opened ≠ .mapping entries) →
      (toCluster d service).result =
          .error ⟨.misconfigured "Cluster snapshot must be a mapping", none⟩ ∧
        (load files path service).result = if d.isFilled
          then .error ⟨.misconfigured "Cluster snapshot must be a mapping", none⟩
          else .ok { mapService := service }) ∧
    ∀ entries, d.opened = .mapping entries →
      (∀ name v, name = "maps" ∨ name = "objects" → field? name entries = some v →
        (∀ items, v.opened ≠ .list items) →
        (v.isFilled = true → RefusedFrom files path service d) ∧
        (v.isFilled = false → toCluster d service =
          toCluster (.mapping (insert (.text name) (.list []) entries)) service)) ∧
      ∀ before entry after fields v,
        sectionElements "maps" entries = .ok (before ++ entry :: after) →
        entry.opened = .mapping fields → field? "stats" fields = some v →
        (∀ counters, v.opened ≠ .mapping counters) →
        (v.isFilled = true → RefusedFrom files path service d) ∧
        (v.isFilled = false → toCluster d service =
          toCluster (.mapping (insert (.text "maps") (.list (before ++
            .mapping (insert (.text "stats") (.mapping []) fields) :: after)) entries))
            service) := by
  have hload : load files path service = ⟨(toCluster (d.orElse (.mapping [])) service).result,
      (readFile files (Path.plain path)).events ++
        (toCluster (d.orElse (.mapping [])) service).events⟩ := Journal.bind_of_ok h
  have hsame (hd : d.isFilled = true ∨ d = .mapping []) : d.orElse (.mapping []) = d := by
    obtain hfilled | rfl := hd
    · rw [orElse, if_pos hfilled]
    · rfl
  have hmapping {entries : List (Value × Value)} (hd : d.opened = .mapping entries) :
      d.orElse (.mapping []) = d := by
    refine hsame (or_iff_not_imp_left.mpr fun hfilled => ?_)
    by_contra hne
    exact opened_ne_mapping_of_unfilled (Bool.eq_false_iff.mpr hfilled) hne entries hd
  have hrefused {entries : List (Value × Value)} {place : Place} {m : Mishap}
      (hd : d.opened = .mapping entries) (hm : Offends entries place m) :
      RefusedFrom files path service d := by
    obtain ⟨r, hr, hconfiguration⟩ := toCluster_of_offends hd hm service
    exact ⟨r, hr, by rw [hload, hmapping hd, hr], hconfiguration⟩
  refine ⟨fun hd => ?_, fun hd => ⟨toCluster_of_not_mapping hd service, ?_⟩,
    fun entries hd => ⟨fun name v hname hgiven hlist => ⟨fun hfilled => ?_, fun hunfilled => ?_⟩,
      fun before entry after fields v hmaps hentry hgiven hcounters =>
        ⟨fun hfilled => ?_, fun hunfilled => ?_⟩⟩⟩
  · rw [hload, hsame hd]
  · rw [hload, orElse]
    split
    · exact toCluster_of_not_mapping hd service
    · rfl
  · have hshape : Value.Shaped false (.mapping entries) := hd ▸ (shaped_of_readFile h).opened.1
    obtain ⟨place, m, hm⟩ :=
      exists_offends_of_filled hname hgiven (hshape.field hgiven) hfilled hlist
    exact hrefused hd hm
  · have hsection (other : String) : sectionElements other entries =
        sectionElements other (insert (.text name) (.list []) entries) := by
      rw [sectionElements_insert]
      split
      · case isTrue same => rw [same, sectionElements_of_unfilled hgiven hunfilled]
      · rfl
    rw [toCluster_of_opened hd]
    simp only [toCluster, opened, hsection]
  · obtain ⟨m, hm⟩ := mapIn_of_filled hentry hgiven hfilled hcounters
    have hstands : (before ++ entry :: after)[before.length]? = some entry := by
      rw [List.getElem?_append_right (Nat.le_refl _), Nat.sub_self, List.getElem?_cons_zero]
    exact hrefused hd
      (.map ((lists_iff _ _ _).mpr hmaps) hstands ((describesMap_iff _ _).mpr hm))
  · have hreplaced (c : Cluster) := foldlM_replace (c := c)
      (addMap_of_unfilled hentry hgiven hunfilled) before after
    have hother : ¬ "objects" = "maps" := by decide
    rw [toCluster_of_opened hd]
    simp only [toCluster, opened, hmaps, sectionElements_insert, if_true, if_neg hother,
      step_ok_bind, hreplaced]

private theorem result_readFile_only {text : String} {document : Value}
    (decoded : (Text.Utf8.decode text.toUTF8.toList).toOption = some text.toList)
    (read : Json.read (Text.unifyLineEnds text.toList) = .ok document) :
    (readFile (.only "s.json" text.toUTF8.toList) (Path.plain "s.json")).result =
      .ok document := by
  have named : DocumentFormat.ofPath? (Path.plain "s.json") = some .json := by
    with_unfolding_all rfl
  have stands : Files.only "s.json" text.toUTF8.toList (Path.plain "s.json") =
      .file text.toUTF8.toList := by
    with_unfolding_all rfl
  rw [readFile, readDocument_of_json stands named decoded read]
  rfl

/-- A snapshot of one map, with a text for its counters and another one for the other objects. -/
def wordySnapshot : String :=
  "\x7b\"maps\": [\x7b\"config\": \x7b\"name\": \"orders\"\x7d, \"stats\": \"\"\x7d], " ++
    "\"objects\": \"jobs\"\x7d"

/-- The entry of its map. -/
def wordyEntry : List (Value × Value) :=
  [(.text "config", .mapping [(.text "name", .text "orders")]), (.text "stats", .text "")]

/-- What it holds. -/
def wordyEntries : List (Value × Value) :=
  [(.text "maps", .list [.mapping wordyEntry]), (.text "objects", .text "jobs")]

/-- The empty text is taken for no counters, and the other one is refused. -/
theorem load_wordySnapshot :
    let files := Files.only "s.json" wordySnapshot.toUTF8.toList
    (readFile files (Path.plain "s.json")).result = .ok (.mapping wordyEntries) ∧
    RefusedFrom files "s.json" defaultMapService (.mapping wordyEntries) ∧
    toCluster (.mapping wordyEntries) defaultMapService =
      toCluster (.mapping (insert (.text "maps") (.list [.mapping
        (insert (.text "stats") (.mapping []) wordyEntry)]) wordyEntries)) defaultMapService := by
  intro files
  have holds : (readFile files (Path.plain "s.json")).result = .ok (.mapping wordyEntries) :=
    result_readFile_only (by decide +kernel) (by with_unfolding_all rfl)
  obtain ⟨-, -, hparts⟩ := load_of_filled defaultMapService holds
  obtain ⟨hsections, hcounters⟩ := hparts wordyEntries rfl
  exact ⟨holds, (hsections "objects" (.text "jobs") (.inr rfl) rfl nofun).1 rfl,
    (hcounters [] (.mapping wordyEntry) [] wordyEntry (.text "") rfl rfl rfl nofun).2 rfl⟩

/-- An empty list in a file loads as the empty cluster, and is no snapshot by itself. -/
theorem load_empty_list :
    let files := Files.only "s.json" "[]".toUTF8.toList
    (readFile files (Path.plain "s.json")).result = .ok (.list []) ∧
    (load files "s.json" defaultMapService).result = .ok {} ∧
    (toCluster (.list []) defaultMapService).result =
      .error ⟨.misconfigured "Cluster snapshot must be a mapping", none⟩ := by
  intro files
  have holds : (readFile files (Path.plain "s.json")).result = .ok (.list []) :=
    result_readFile_only (by decide +kernel) (by with_unfolding_all rfl)
  refine ⟨holds, ?_, rfl⟩
  rw [load, Journal.result_bind, holds]
  rfl

end Snapshot

end MapMetrics
