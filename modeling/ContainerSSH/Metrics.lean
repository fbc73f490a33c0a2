/-
The metrics collector.
-/
import ContainerSSH.ConnectionMetadata
import ContainerSSH.ListBlocks

namespace ContainerSSH.Metrics

inductive MetricType where
  | counter
  | gauge
deriving DecidableEq

structure Metric where
  name : String
  unit : String
  help : String
  type : MetricType
deriving DecidableEq

structure MetricLabel where
  name : String
  value : String

abbrev Labels := List (String × String)

def toMap (labels : List MetricLabel) : Labels :=
  labels.foldl (fun result label => assign label.name label.value result) []

structure MetricValue where
  name : String
  labels : Labels
  value : Int

def escapeChar (c : Char) : List Char :=
  if c = '"' then ['\\', '"'] else if c = '\\' then ['\\', '\\'] else [c]

def replace (value : String) : String := String.ofList (value.toList.flatMap escapeChar)

def MetricValue.combinedName (v : MetricValue) : String :=
  let keys := (v.labels.map Prod.fst).mergeSort fun a b => decide (a ≤ b)
  let labelList := keys.map fun k => k ++ "=\"" ++ replace ((v.labels.lookup k).getD "") ++ "\""
  if labelList = [] then v.name
  else v.name ++ ("\x7b" ++ ",".intercalate labelList ++ "\x7d")

structure Series where
  metricValueMap : String → Option Nat := fun _ => none
  metricValues : List MetricValue := []

structure Collector where
  metricsMap : String → Option Metric := fun _ => none
  metrics : List Metric := []
  values : String → Option Series := fun _ => none

namespace Collector

variable (c : Collector)

def createMetric (metric : Metric) : Option Collector :=
  match c.metricsMap metric.name with
  | some existing => if existing = metric then some c else none
  | none =>
    some { c with
      metricsMap := fun name => if name = metric.name then some metric else c.metricsMap name
      metrics := c.metrics ++ [metric] }

def getMetric (name : String) : List MetricValue :=
  match c.values name with
  | some series => series.metricValues
  | none => []

def setSeries (name : String) (series : Series) : Collector :=
  { c with values := fun n => if n = name then some series else c.values n }

def getValueStruct (name : String) (labels : Labels) : Collector × Nat :=
  let series := (c.values name).getD {}
  let valueStruct : MetricValue := { name, labels, value := 0 }
  match series.metricValueMap valueStruct.combinedName with
  | some place => (c.setSeries name series, place)
  | none =>
    (c.setSeries name
      { metricValueMap := fun key =>
          if key = valueStruct.combinedName then some series.metricValues.length
          else series.metricValueMap key
        metricValues := series.metricValues ++ [valueStruct] },
      series.metricValues.length)

def get (name : String) (labels : Labels) : Collector × Int :=
  let (c, place) := c.getValueStruct name labels
  (c, ((c.getMetric name)[place]?.map MetricValue.value).getD 0)

def set (name : String) (labels : Labels) (value : Int) : Collector :=
  let (c, place) := c.getValueStruct name labels
  let series := (c.values name).getD {}
  c.setSeries name { series with
      metricValues := series.metricValues.modify place fun v => { v with value } }

end Collector

structure GeoMetric where
  name : String
  labels : List MetricLabel := []

namespace GeoMetric

variable (g : GeoMetric) (lookup : List UInt8 → String) (c : Collector)

def realLabels (ip : List UInt8) (labels : List MetricLabel) : Labels :=
  assign "country" (lookup ip) (toMap (g.labels ++ labels))

def change (ip : List UInt8) (amount : Int) (labels : List MetricLabel) :
    Collector :=
  let realLabels := g.realLabels lookup ip labels
  let (c, value) := c.get g.name realLabels
  c.set g.name realLabels (value + amount)

def gaugeIncrementBy (ip : List UInt8) (amount : Int) (labels : List MetricLabel) : Collector :=
  g.change lookup c ip amount labels

def gaugeDecrementBy (ip : List UInt8) (amount : Int) (labels : List MetricLabel) : Collector :=
  g.change lookup c ip (-amount) labels

def counterIncrementBy (ip : List UInt8) (amount : Int)
    (labels : List MetricLabel) : Collector × Bool :=
  if amount < 0 then (c, true) else (g.change lookup c ip amount labels, false)

def gaugeIncrement (ip : List UInt8) : Collector := g.gaugeIncrementBy lookup c ip 1 []

def gaugeDecrement (ip : List UInt8) : Collector := g.gaugeDecrementBy lookup c ip 1 []

def counterIncrement (ip : List UInt8) : Collector := (g.counterIncrementBy lookup c ip 1 []).1

end GeoMetric

inductive Reading where
  | key (name : List Char)
  | equals (name : List Char)
  | value (name value : List Char)
  | escape (name value : List Char)
  | closed

def parseLabels : Reading → List Char → Option Labels
  | .key name, c :: rest =>
    if c = '=' then parseLabels (.equals name) rest else parseLabels (.key (name ++ [c])) rest
  | .equals name, c :: rest => if c = '"' then parseLabels (.value name []) rest else none
  | .value name value, c :: rest =>
    if c = '"' then
      (parseLabels .closed rest).map ((String.ofList name, String.ofList value) :: ·)
    else if c = '\\' then parseLabels (.escape name value) rest
    else parseLabels (.value name (value ++ [c])) rest
  | .escape name value, c :: rest =>
    if c = '"' ∨ c = '\\' then parseLabels (.value name (value ++ [c])) rest
    else if c = 'n' then parseLabels (.value name (value ++ ['\n'])) rest
    else none
  | .closed, c :: rest =>
    if c = ',' then parseLabels (.key []) rest
    else if c = '\x7d' ∧ rest = [] then some [] else none
  | _, [] => none

def parseSeries (text : List Char) : Option (String × Labels) :=
  match text.dropWhile (· ≠ '\x7b') with
  | [] => some (String.ofList text, [])
  | _ :: rest => (parseLabels (.key []) rest).map (String.ofList (text.takeWhile (· ≠ '\x7b')), ·)

def labelText (label : String × String) : List Char :=
  label.1.toList ++ '=' :: '"' :: (label.2.toList.flatMap escapeChar ++ ['"'])

theorem parseLabels_key {name : List Char} (hname : '=' ∉ name) (before rest : List Char) :
    parseLabels (.key before) (name ++ '=' :: rest) =
      parseLabels (.equals (before ++ name)) rest := by
  induction name generalizing before with
  | nil => rw [List.nil_append, parseLabels, if_pos rfl, List.append_nil]
  | cons c name ih =>
    rw [List.mem_cons, not_or] at hname
    rw [List.cons_append, parseLabels, if_neg (Ne.symm hname.1), ih hname.2, List.append_assoc,
      List.singleton_append]

theorem parseLabels_value (name value before rest : List Char) :
    parseLabels (.value name before) (value.flatMap escapeChar ++ '"' :: rest) =
      (parseLabels .closed rest).map
        ((String.ofList name, String.ofList (before ++ value)) :: ·) := by
  induction value generalizing before with
  | nil => simp [parseLabels]
  | cons c value ih =>
    have hnext := ih (before ++ [c])
    rw [List.append_assoc, List.singleton_append] at hnext
    rw [List.flatMap_cons, List.append_assoc, ← hnext, escapeChar]
    -- the escaped characters are read back in two steps
    split_ifs with hquote hbackslash
    · subst hquote
      simp [parseLabels]
    · subst hbackslash
      simp [parseLabels]
    · rw [List.singleton_append, parseLabels, if_neg hquote, if_neg hbackslash]

theorem parseLabels_labelText {label : String × String} (hkey : '=' ∉ label.1.toList)
    (rest : List Char) : parseLabels (.key []) (labelText label ++ rest) =
      (parseLabels .closed rest).map (label :: ·) := by
  have hvalue := parseLabels_value label.1.toList label.2.toList [] rest
  rw [labelText, List.append_assoc, List.cons_append, List.cons_append, parseLabels_key hkey,
    parseLabels, if_pos rfl, List.append_assoc, List.singleton_append, List.nil_append, hvalue]
  simp

theorem parseLabels_intercalate {labels : Labels} (hkeys : ∀ label ∈ labels, '=' ∉ label.1.toList)
    (hlabels : labels ≠ []) :
    parseLabels (.key []) ([','].intercalate (labels.map labelText) ++ ['\x7d']) = some labels := by
  induction labels with
  | nil => exact absurd rfl hlabels
  | cons label rest ih =>
    obtain ⟨hkey, hrest⟩ := List.forall_mem_cons.mp hkeys
    cases rest with
    | nil =>
      rw [List.map_singleton, List.intercalate_singleton, parseLabels_labelText hkey]
      rfl
    | cons next rest =>
      rw [List.map_cons, List.map_cons, List.intercalate_cons_cons, List.append_assoc,
        List.append_assoc, parseLabels_labelText hkey, List.singleton_append, parseLabels,
        if_pos rfl, ← List.map_cons, ih hrest (List.cons_ne_nil _ _), Option.map_some]

def sortedLabels (labels : Labels) : Labels :=
  ((labels.map Prod.fst).mergeSort fun a b => decide (a ≤ b)).map fun k =>
    (k, (labels.lookup k).getD "")

theorem toList_combinedName (v : MetricValue) :
    v.combinedName.toList = v.name.toList ++ if sortedLabels v.labels = [] then [] else
      '\x7b' :: ([','].intercalate ((sortedLabels v.labels).map labelText) ++ ['\x7d']) := by
  simp only [MetricValue.combinedName, sortedLabels, List.map_eq_nil_iff]
  split_ifs with hkeys
  · rw [List.append_nil]
  · simp [labelText, replace, Function.comp_def]

theorem parseSeries_combinedName {v : MetricValue} (hname : '\x7b' ∉ v.name.toList)
    (hkeys : ∀ label ∈ sortedLabels v.labels, '=' ∉ label.1.toList) :
    parseSeries v.combinedName.toList = some (v.name, sortedLabels v.labels) := by
  have hall : ∀ c ∈ v.name.toList, decide (c ≠ '\x7b') = true := fun c hc =>
    decide_eq_true (ne_of_mem_of_not_mem hc hname)
  rw [toList_combinedName, parseSeries, List.takeWhile_append_of_pos hall,
    List.dropWhile_append_of_pos hall]
  split_ifs with hlabels
  · simp [hlabels]
  · simp [parseLabels_intercalate hkeys hlabels]

theorem lookup_of_mem {labels : Labels} (hnodup : (labels.map Prod.fst).Nodup)
    {label : String × String} (hlabel : label ∈ labels) :
    labels.lookup label.1 = some label.2 := by
  induction labels with
  | nil => simp at hlabel
  | cons first rest ih =>
    rw [List.map_cons, List.nodup_cons] at hnodup
    rw [List.lookup_cons]
    rcases List.mem_cons.mp hlabel with rfl | hrest
    · rw [beq_self_eq_true]
    · have hdiffers : label.1 ≠ first.1 := ne_of_mem_of_not_mem (List.mem_map_of_mem hrest) hnodup.1
      rw [beq_eq_false_iff_ne.mpr hdiffers]
      exact ih hnodup.2 hrest

theorem sortedLabels_perm {labels : Labels} (hnodup : (labels.map Prod.fst).Nodup) :
    (sortedLabels labels).Perm labels := by
  have hsame : labels.map (fun label => (label.1, (labels.lookup label.1).getD "")) = labels := by
    refine (List.map_congr_left fun label hlabel => ?_).trans (List.map_id labels)
    rw [lookup_of_mem hnodup hlabel]
    rfl
  have hsorted := (List.mergeSort_perm (labels.map Prod.fst) fun a b => decide (a ≤ b)).map
    fun k => (k, (labels.lookup k).getD "")
  rwa [List.map_map, Function.comp_def, hsame] at hsorted

theorem sortedLabels_pairwise (labels : Labels) :
    (sortedLabels labels).Pairwise fun first second => first.1 ≤ second.1 := by
  refine List.pairwise_map.mpr ((List.pairwise_mergeSort ?_ ?_ _).imp of_decide_eq_true)
  · intro a b c hab hbc
    exact decide_eq_true (String.le_trans (of_decide_eq_true hab) (of_decide_eq_true hbc))
  · intro a b
    simpa using String.le_total a b

theorem sortedLabels_congr {labels labels' : Labels} (hnodup : (labels.map Prod.fst).Nodup)
    (hperm : labels.Perm labels') : sortedLabels labels = sortedLabels labels' := by
  have hfirst := sortedLabels_perm hnodup
  have hsecond := sortedLabels_perm ((hperm.map Prod.fst).nodup_iff.mp hnodup)
  refine List.Perm.eq_of_pairwise (fun label label' hmem hmem' hle hge => ?_)
    (sortedLabels_pairwise labels) (sortedLabels_pairwise labels')
    (hfirst.trans (hperm.trans hsecond.symm))
  have hkey : label.1 = label'.1 := String.le_antisymm hle hge
  exact List.inj_on_of_nodup_map hnodup (hfirst.mem_iff.mp hmem)
    (hperm.mem_iff.mpr (hsecond.mem_iff.mp hmem')) hkey

def countryLabels (country : String) : Labels := [("country", country)]

theorem countryLabels_inj {first second : String} :
    countryLabels first = countryLabels second ↔ first = second := by
  simp [countryLabels]

theorem combinedName_country_injective {name first second : String} {value value' : Int}
    (hsame : MetricValue.combinedName ⟨name, countryLabels first, value⟩ =
      MetricValue.combinedName ⟨name, countryLabels second, value'⟩) : first = second := by
  have hsorted : ∀ country, sortedLabels (countryLabels country) = countryLabels country := by
    simp [sortedLabels, countryLabels]
  have hlabels : ∀ country, countryLabels country ≠ [] := by simp [countryLabels]
  have hread : ∀ country, parseLabels (.key [])
      ([','].intercalate ((countryLabels country).map labelText) ++ ['\x7d']) =
        some (countryLabels country) := fun country =>
    parseLabels_intercalate (by simp [countryLabels]) (hlabels country)
  have hlists := congrArg String.toList hsame
  rw [toList_combinedName, toList_combinedName, hsorted, hsorted, List.append_cancel_left_eq,
    if_neg (hlabels first), if_neg (hlabels second), List.cons.injEq] at hlists
  rw [← countryLabels_inj, ← Option.some_inj, ← hread, ← hread, hlists.2]

namespace Series

def Indexed (s : Series) : Prop :=
  ∀ key place, s.metricValueMap key = some place ↔
    ∃ v, s.metricValues[place]? = some v ∧ v.combinedName = key

def ByCountry (name : String) (s : Series) : Prop :=
  ∀ v ∈ s.metricValues, v.name = name ∧ ∃ country, v.labels = countryLabels country

inductive Changed (name country : String) (amount : Int) (s : Series) :
    Series → Prop
  | updated (place : Nat) (v : MetricValue) (hplace : s.metricValues[place]? = some v)
      (hlabels : v.labels = countryLabels country) : Changed name country amount s { s with
          metricValues := s.metricValues.modify place fun v =>
            { v with value := v.value + amount } }
  | added (key : String) (hkey : MetricValue.combinedName ⟨name, countryLabels country, 0⟩ = key)
      (hnew : s.metricValueMap key = none) : Changed name country amount s
        { metricValueMap := fun k =>
            if k = key then some s.metricValues.length else s.metricValueMap k
          metricValues := s.metricValues ++ [⟨name, countryLabels country, amount⟩] }

variable {name country : String} {amount : Int} {s t : Series}

theorem indexed_empty : Indexed {} := by simp [Indexed]

theorem byCountry_empty (name : String) : ByCountry name {} := by
  simp [ByCountry]

theorem Indexed.modify (hs : s.Indexed) (place : Nat) {f : MetricValue → MetricValue}
    (hf : ∀ v, (f v).combinedName = v.combinedName) :
    Indexed { s with metricValues := s.metricValues.modify place f } := by
  intro key other
  rw [hs key other]
  simp only [List.getElem?_modify]
  constructor
  · rintro ⟨w, hw, rfl⟩
    refine ⟨_, by rw [hw]; rfl, ?_⟩
    split_ifs
    · exact hf w
    · rfl
  · rintro ⟨w, hw, rfl⟩
    rw [Option.map_eq_map, Option.map_eq_some_iff] at hw
    obtain ⟨old, hold, rfl⟩ := hw
    refine ⟨old, hold, ?_⟩
    split_ifs
    · exact (hf old).symm
    · rfl

theorem Indexed.append (hs : s.Indexed) {v : MetricValue} {key : String}
    (hkey : v.combinedName = key) (hnew : s.metricValueMap key = none) :
    Indexed { metricValueMap := fun k =>
                if k = key then some s.metricValues.length else s.metricValueMap k
              metricValues := s.metricValues ++ [v] } := by
  have hunused : ∀ place : Nat, ¬ ∃ v : MetricValue,
      s.metricValues[place]? = some v ∧ v.combinedName = key := by
    intro place hv
    rw [(hs key place).mpr hv] at hnew
    cases hnew
  intro k place
  simp only [ListBlocks.getElem?_append_singleton_eq_some, or_and_right,
    exists_or, and_assoc, exists_and_left, exists_eq_left', hkey]
  by_cases hk : k = key
  · subst hk
    rw [if_pos rfl, Option.some.injEq, or_iff_right (hunused place)]
    exact ⟨fun heq => ⟨heq.symm, rfl⟩, fun heq => heq.1.symm⟩
  · rw [if_neg hk, hs k place]
    exact (or_iff_left fun heq => hk heq.2.symm).symm

theorem Changed.indexed (hs : s.Indexed)
    (hchanged : Changed name country amount s t) : t.Indexed := by
  cases hchanged with
  | updated place => exact hs.modify place fun _ => rfl
  | added key hkey hnew => exact hs.append hkey hnew

theorem Changed.byCountry (hs : s.ByCountry name)
    (hchanged : Changed name country amount s t) : t.ByCountry name := by
  cases hchanged with
  | updated =>
    intro w hw
    obtain ⟨i, hi⟩ := List.getElem?_of_mem hw
    simp only [List.getElem?_modify, Option.map_eq_map, Option.map_eq_some_iff] at hi
    obtain ⟨old, hold, rfl⟩ := hi
    have hlabelled := hs old (List.mem_of_getElem? hold)
    split_ifs <;> exact hlabelled
  | added =>
    intro w hw
    rw [List.mem_append, List.mem_singleton] at hw
    rcases hw with hw | rfl
    · exact hs w hw
    · exact ⟨rfl, country, rfl⟩

def sumOver (p : Labels → Bool) (values : List MetricValue) : Int :=
  (values.map fun v => if p v.labels then v.value else 0).sum

theorem Changed.sumOver (hchanged : Changed name country amount s t) (p : Labels → Bool) :
    sumOver p t.metricValues = sumOver p s.metricValues +
      if p (countryLabels country) then amount else 0 := by
  cases hchanged with
  | updated place v hplace hlabels =>
    rw [Series.sumOver, ListBlocks.sum_map_modify hplace, ← hlabels]
    simp only [Series.sumOver]
    split_ifs <;> omega
  | added => simp [Series.sumOver]

end Series

namespace Collector

def Sound (c : Collector) : Prop :=
  ∀ name series, c.values name = some series → series.Indexed ∧ series.ByCountry name

def sumOver (c : Collector) (p : Labels → Bool) (name : String) : Int :=
  Series.sumOver p (c.getMetric name)

def reading (c : Collector) (name country : String) : Int :=
  c.sumOver (fun labels => labels = countryLabels country) name

def total (c : Collector) (name : String) : Int := c.sumOver (fun _ => true) name

variable {c : Collector}

theorem Sound.getD (hc : c.Sound) (name : String) : ((c.values name).getD {}).Indexed ∧
      ((c.values name).getD {}).ByCountry name := by
  cases hvalues : c.values name with
  | none => exact ⟨Series.indexed_empty, Series.byCountry_empty name⟩
  | some series => exact hc name series hvalues

theorem getMetric_eq (c : Collector) (name : String) :
    c.getMetric name = ((c.values name).getD {}).metricValues := by
  unfold getMetric
  split <;> next hvalues => rw [hvalues]; rfl

theorem getValueStruct_of_some {name : String} {labels : Labels} {place : Nat}
    (hknown : ((c.values name).getD {}).metricValueMap
      (MetricValue.combinedName ⟨name, labels, 0⟩) = some place) : c.getValueStruct name labels =
      (c.setSeries name ((c.values name).getD {}), place) := by
  simp only [getValueStruct, hknown]

theorem getValueStruct_of_none {name : String} {labels : Labels}
    (hnew : ((c.values name).getD {}).metricValueMap
      (MetricValue.combinedName ⟨name, labels, 0⟩) = none) :
    c.getValueStruct name labels = (c.setSeries name
        { metricValueMap := fun key =>
            if key = MetricValue.combinedName ⟨name, labels, 0⟩ then
              some ((c.values name).getD {}).metricValues.length
            else ((c.values name).getD {}).metricValueMap key
          metricValues := ((c.values name).getD {}).metricValues ++ [⟨name, labels, 0⟩] },
        ((c.values name).getD {}).metricValues.length) := by
  simp only [getValueStruct, hnew]

@[simp]
theorem setSeries_self (c : Collector) (name : String) (series : Series) :
    (c.setSeries name series).values name = some series := by
  simp [setSeries]

@[simp]
theorem setSeries_setSeries (c : Collector) (name : String) (first second : Series) :
    (c.setSeries name first).setSeries name second = c.setSeries name second := by
  simp only [setSeries, Collector.mk.injEq, true_and]
  funext n
  split_ifs <;> rfl

theorem set_of_some {name : String} {labels : Labels} {place : Nat} {value : Int} {series : Series}
    (hknown : series.metricValueMap (MetricValue.combinedName ⟨name, labels, 0⟩) = some place) :
    (c.setSeries name series).set name labels value = c.setSeries name { series with
          metricValues := series.metricValues.modify place fun v =>
            { v with value } } := by
  have hplace : (c.setSeries name series).getValueStruct name labels =
      ((c.setSeries name series).setSeries name
        (((c.setSeries name series).values name).getD {}), place) :=
    getValueStruct_of_some (by simpa using hknown)
  simp only [set, hplace, setSeries_self, Option.getD_some, setSeries_setSeries]

end Collector

namespace GeoMetric

variable {g : GeoMetric} (lookup : List UInt8 → String) {c : Collector}

theorem realLabels_eq (hg : g.labels = []) (ip : List UInt8) :
    g.realLabels lookup ip [] = countryLabels (lookup ip) := by
  simp [realLabels, hg, toMap, assign, countryLabels]

theorem change_eq (hg : g.labels = []) (hc : c.Sound) (ip : List UInt8) (amount : Int) :
    ∃ series, Series.Changed g.name (lookup ip) amount ((c.values g.name).getD {}) series ∧
      g.change lookup c ip amount [] = c.setSeries g.name series := by
  obtain ⟨hindexed, hcountry⟩ := hc.getD g.name
  generalize hseries : (c.values g.name).getD {} = series at hindexed hcountry
  simp only [change, Collector.get, realLabels_eq lookup hg]
  cases hmap : series.metricValueMap
      (MetricValue.combinedName ⟨g.name, countryLabels (lookup ip), 0⟩) with
  | some place =>
    obtain ⟨v, hv, hname⟩ := (hindexed _ place).mp hmap
    obtain ⟨hmetric, country, hlabels⟩ := hcountry v (List.mem_of_getElem? hv)
    have hsame : country = lookup ip := by
      obtain ⟨name, labels, value⟩ := v
      subst hmetric hlabels
      exact combinedName_country_injective hname
    refine ⟨_, .updated place v hv (by rw [hlabels, hsame]), ?_⟩
    rw [Collector.getValueStruct_of_some (by rw [hseries]; exact hmap), hseries]
    simp only [Collector.getMetric, Collector.setSeries_self, hv]
    rw [Collector.set_of_some hmap]
    exact congrArg (fun values => c.setSeries g.name { series with metricValues := values })
      (ListBlocks.modify_congr hv rfl)
  | none =>
    refine ⟨_, .added _ rfl hmap, ?_⟩
    rw [Collector.getValueStruct_of_none (by rw [hseries]; exact hmap), hseries]
    simp only [Collector.getMetric]
    rw [Collector.set_of_some (if_pos rfl), ListBlocks.modify_append_singleton]
    simp

theorem sound_change (hg : g.labels = []) (hc : c.Sound) (ip : List UInt8)
    (amount : Int) : (g.change lookup c ip amount []).Sound := by
  obtain ⟨series, hchanged, heq⟩ := change_eq lookup hg hc ip amount
  obtain ⟨hindexed, hcountry⟩ := hc.getD g.name
  rw [heq]
  intro name t ht
  simp only [Collector.setSeries] at ht
  split_ifs at ht with hname
  · rw [Option.some.injEq] at ht
    subst ht hname
    exact ⟨hchanged.indexed hindexed, hchanged.byCountry hcountry⟩
  · exact hc name t ht

theorem sumOver_change (hg : g.labels = []) (hc : c.Sound) (ip : List UInt8)
    (amount : Int) (p : Labels → Bool) (name : String) :
    (g.change lookup c ip amount []).sumOver p name = c.sumOver p name +
      if name = g.name ∧ p (countryLabels (lookup ip)) then amount else 0 := by
  obtain ⟨series, hchanged, heq⟩ := change_eq lookup hg hc ip amount
  rw [heq, Collector.sumOver, Collector.sumOver, Collector.getMetric_eq, Collector.getMetric_eq]
  by_cases hname : name = g.name
  · subst hname
    rw [Collector.setSeries_self, Option.getD_some, hchanged.sumOver p]
    simp
  · simp [Collector.setSeries, hname]

end GeoMetric

end ContainerSSH.Metrics
