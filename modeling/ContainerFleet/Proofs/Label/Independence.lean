import ContainerFleet.Proofs.Label.Kind
import ContainerFleet.Proofs.Text.Blank
import Mathlib.Data.List.Basic

/-!
A malformed label switches off what it controls and nothing else. Main statement:
`independent_ofRaw`.

What is read for one kind depends on the values of its own keys (`read?_congr`), and no two kinds
share a key. So a change at one key is a change of one kind at most.
-/

namespace ContainerFleet

open ContainerFleet.Text

namespace Label

/-- The keys that are looked at. -/
def keys : List String :=
  [selfKey, disableKey, optInKey, uptimeKey, pingKey, pingDelayKey]

/-- A value that says `true`, in any case and with blanks around it. -/
def SaysTrue (value : String) : Prop :=
  ∃ word, Trims value.toList word ∧ word.map Char.toLower = "true".toList

/-- A value that is this address, with blanks around it, and names the scheme `http` or `https`. -/
def Addresses (value url : String) : Prop :=
  Trims value.toList url.toList ∧
    ("http://".toList <+: url.toList ∨ "https://".toList <+: url.toList)

/-- A key with a value that does not fit it. Any value fits the key by which a container opts in. -/
inductive Malformed : String → String → Prop where
  | own {value : String} (h : ¬ SaysTrue value) : Malformed selfKey value
  | disable {value : String} (h : ¬ SaysTrue value) : Malformed disableKey value
  | uptime {value : String} (h : Duration.ofText? value = none) : Malformed uptimeKey value
  | ping {value : String} (h : ∀ url, ¬ Addresses value url) : Malformed pingKey value
  | delay {value : String} (h : Duration.ofText? value = none) : Malformed pingDelayKey value

theorem isTrue_iff {value : String} : isTrue value = true ↔ SaysTrue value := by
  constructor
  · intro h
    exact ⟨trim value.toList, trims_trim _, by simpa [isTrue] using h⟩
  · rintro ⟨word, htrims, hword⟩
    rw [isTrue, trim_eq_iff.2 htrims, hword]
    rfl

theorem httpUrl?_eq_some_iff {value url : String} :
    httpUrl? value = some url ↔ Addresses value url := by
  simp only [httpUrl?, Option.ite_none_right_eq_some, Bool.or_eq_true, List.isPrefixOf_iff_prefix,
    Option.some.injEq, Addresses, ← trim_eq_iff]
  constructor
  · rintro ⟨hscheme, rfl⟩
    rw [String.toList_ofList]
    exact ⟨rfl, hscheme⟩
  · rintro ⟨htrim, hscheme⟩
    rw [htrim, String.ofList_toList]
    exact ⟨hscheme, rfl⟩

namespace Kind

variable {raw other : Map String String} {kind : Kind} {key value : String}

theorem mem_keys (h : key ∈ kind.keys) : key ∈ Label.keys := by
  have hall : ∀ kind ∈ all, ∀ key ∈ kind.keys, key ∈ Label.keys := by decide
  exact hall kind (mem_all kind) key h

/-- A difference at one key makes no difference to a kind with other keys. -/
theorem read?_congr_apart (hkey : key ∉ kind.keys)
    (h : ∀ k, k ≠ key → raw.get? k = other.get? k) : kind.read? raw = kind.read? other :=
  read?_congr fun k hk => h k fun heq => hkey (heq ▸ hk)

/-- A malformed value stands for no label of the kind that its key belongs to. -/
theorem exists_read?_eq_none (hvalue : raw.get? key = some value) (h : Malformed key value) :
    ∃ kind : Kind, key ∈ kind.keys ∧ kind.read? raw = none := by
  cases h with
  | own h =>
      refine ⟨selfContainer, by decide, ?_⟩
      simp [read?, LabelSet.selfContainer?, hvalue, isTrue_iff, h]
  | disable h =>
      refine ⟨updateDisabled, by decide, ?_⟩
      simp [read?, LabelSet.updateDisabled?, hvalue, isTrue_iff, h]
  | uptime h =>
      refine ⟨healthUptime, by decide, ?_⟩
      simp [read?, LabelSet.healthUptime?, hvalue, h]
  | ping h =>
      refine ⟨healthPing, by decide, ?_⟩
      have hnone : httpUrl? value = none :=
        Option.eq_none_iff_forall_ne_some.2 fun url hurl => h url (httpUrl?_eq_some_iff.1 hurl)
      simp [read?, LabelSet.healthPing?, hvalue, hnone]
  | delay h =>
      refine ⟨healthPing, by decide, ?_⟩
      simp [read?, LabelSet.healthPing?, hvalue, h]

end Kind

end Label

namespace LabelSet

open Label

variable {raw other : Map String String} {kind : Kind} {key value : String}

theorem ofRaw_congr (h : ∀ kind : Kind, kind.read? raw = kind.read? other) :
    ofRaw raw = ofRaw other := by
  have hlabels : (ofRaw raw).labels = (ofRaw other).labels := by
    rw [labels_ofRaw, labels_ofRaw]
    exact List.filterMap_congr fun kind _ => h kind
  exact congrArg LabelSet.mk hlabels

/-- The kinds that there are labels of. -/
theorem map_kind_labels (raw : Map String String) :
    (ofRaw raw).labels.map Label.kind = Kind.all.filter fun kind => (kind.read? raw).isSome := by
  rw [labels_ofRaw, List.map_filterMap, ← List.filterMap_eq_filter]
  refine List.filterMap_congr fun kind _ => ?_
  cases hread : kind.read? raw with
  | none => simp [hread, Option.guard]
  | some label => simp [hread, Option.guard, Kind.kind_of_read? hread]

/-- The labels of all other kinds. -/
def others (s : LabelSet) (kind : Kind) : List Label :=
  s.labels.filter fun label => label.kind ≠ kind

theorem others_ofRaw (raw : Map String String) (kind : Kind) :
    (ofRaw raw).others kind = (Kind.all.filter (· ≠ kind)).filterMap (Kind.read? raw) := by
  rw [others, labels_ofRaw, List.filter_filterMap, List.filterMap_filter]
  refine List.filterMap_congr fun k _ => ?_
  cases hread : k.read? raw with
  | none => simp
  | some label => by_cases hk : k = kind <;> simp [Kind.kind_of_read? hread, hk]

theorem others_congr (hkey : key ∈ kind.keys) (h : ∀ k, k ≠ key → raw.get? k = other.get? k) :
    (ofRaw raw).others kind = (ofRaw other).others kind := by
  rw [others_ofRaw, others_ofRaw]
  refine List.filterMap_congr fun k hk => Kind.read?_congr_apart (fun hmem => ?_) h
  have hne : k ≠ kind := by simpa using (List.mem_filter.1 hk).2
  exact hne (Kind.eq_of_mem_keys hmem hkey)

/-- Where a key belongs to a kind that there is no label of, it may as well be missing. -/
theorem ofRaw_erase (hkey : key ∈ kind.keys) (hnone : kind.read? raw = none) :
    ofRaw raw = ofRaw (raw.erase key) := by
  refine ofRaw_congr fun k => ?_
  by_cases hk : key ∈ k.keys
  · obtain rfl := Kind.eq_of_mem_keys hk hkey
    rw [hnone, Kind.read?_eq_none hkey (by rw [Map.get?_erase, if_pos rfl])]
  · exact Kind.read?_congr_apart hk fun j hj => by rw [Map.get?_erase, if_neg (Ne.symm hj)]

/-- What the labels of a container are, key by key and kind by kind. -/
structure Independent (raw : Map String String) : Prop where
  /-- No other key counts. -/
  only_keys : ∀ other : Map String String,
    (∀ key ∈ keys, raw.get? key = other.get? key) → ofRaw raw = ofRaw other
  in_order : ((ofRaw raw).labels.map Label.kind).Sublist
    [.selfContainer, .updateDisabled, .optIn, .healthUptime, .healthPing]
  once : ((ofRaw raw).labels.map Label.kind).Nodup
  /-- A malformed value is as good as none. -/
  malformed : ∀ key value, raw.get? key = some value → Malformed key value →
    ofRaw raw = ofRaw (raw.erase key)
  ping : ∀ url delay, (ofRaw raw).ping? = some (url, delay) ↔
    ∃ address time, raw.get? pingKey = some address ∧ raw.get? pingDelayKey = some time ∧
      Addresses address url ∧ Duration.ofText? time = some delay
  set_apart : ∀ (kind : Kind) (key value : String), key ∈ kind.keys →
    (ofRaw (raw.insert key value)).others kind = (ofRaw raw).others kind
  removed_apart : ∀ (kind : Kind) (key : String), key ∈ kind.keys →
    (ofRaw (raw.erase key)).others kind = (ofRaw raw).others kind

theorem independent_ofRaw (raw : Map String String) : Independent raw where
  only_keys other h := ofRaw_congr fun _ => Kind.read?_congr fun key hkey => h key (Kind.mem_keys hkey)
  in_order := by
    rw [map_kind_labels]
    exact List.filter_sublist
  once := by
    rw [map_kind_labels]
    exact List.Nodup.sublist List.filter_sublist (by decide)
  malformed key value hvalue h := by
    obtain ⟨kind, hkey, hnone⟩ := Kind.exists_read?_eq_none hvalue h
    exact ofRaw_erase hkey hnone
  ping url delay := by simp only [ping?_ofRaw_eq_some_iff, httpUrl?_eq_some_iff]
  set_apart kind key value hkey :=
    others_congr hkey fun k hk => by rw [Map.get?_insert, if_neg (Ne.symm hk)]
  removed_apart kind key hkey :=
    others_congr hkey fun k hk => by rw [Map.get?_erase, if_neg (Ne.symm hk)]

/-- An uptime that is none leaves the switch beside it alone. -/
example : ofRaw [(uptimeKey, "soon"), (disableKey, " True ")] = ⟨[.updateDisabled]⟩ := by
  decide +kernel

end LabelSet

end ContainerFleet
