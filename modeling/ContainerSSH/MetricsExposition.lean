/-
The series of the metrics collector and the text that exposes them.
-/
import ContainerSSH.Metrics
import Mathlib.Data.List.Induction

namespace ContainerSSH.Metrics

def isInitial (c : Char) : Bool := c.isAlpha || c = '_' || c = ':'

def isIdentifier (name : String) : Bool :=
  match name.toList with
  | [] => false
  | c :: rest => isInitial c && rest.all fun c => isInitial c || c.isDigit

structure IsSeries (name : String) (labels : Labels) : Prop where
  identifier : isIdentifier name
  keys : ∀ label ∈ labels, isIdentifier label.1
  nodup : (labels.map Prod.fst).Nodup

theorem notMem_of_isIdentifier {name : String} (hname : isIdentifier name) {c : Char}
    (hinitial : isInitial c = false) (hdigit : c.isDigit = false) : c ∉ name.toList := by
  intro hmem
  unfold isIdentifier at hname
  split at hname
  · cases hname
  · next first rest hlist =>
    rw [Bool.and_eq_true, List.all_eq_true] at hname
    rw [hlist, List.mem_cons] at hmem
    rcases hmem with rfl | hrest
    · simp [hinitial] at hname
    · simpa [hinitial, hdigit] using hname.2 c hrest

variable {name name' : String} {labels labels' : Labels} {v : MetricValue}

theorem IsSeries.parse (hv : IsSeries v.name v.labels) :
    parseSeries v.combinedName.toList = some (v.name, sortedLabels v.labels) := by
  refine parseSeries_combinedName (notMem_of_isIdentifier hv.identifier rfl rfl) ?_
  intro label hlabel
  exact notMem_of_isIdentifier (hv.keys label ((sortedLabels_perm hv.nodup).mem_iff.mp hlabel))
    rfl rfl

theorem combinedName_inj (hs : IsSeries name labels) (hs' : IsSeries name' labels')
    {value value' : Int} : MetricValue.combinedName ⟨name, labels, value⟩ =
      MetricValue.combinedName ⟨name', labels', value'⟩ ↔ name = name' ∧ labels.Perm labels' := by
  constructor
  · intro hsame
    have hread := IsSeries.parse (v := ⟨name, labels, value⟩) hs
    rw [hsame, IsSeries.parse (v := ⟨name', labels', value'⟩) hs', Option.some.injEq,
      Prod.mk.injEq] at hread
    have hperm := sortedLabels_perm hs.nodup
    rw [← hread.2] at hperm
    exact ⟨hread.1.symm, hperm.symm.trans (sortedLabels_perm hs'.nodup)⟩
  · rintro ⟨rfl, hperm⟩
    rw [← String.toList_inj, toList_combinedName, toList_combinedName]
    simp only [sortedLabels_congr hs.nodup hperm]

inductive Change where
  | incrementBy (amount : Int)
  | set (value : Int)

def Change.apply : Change → Int → Int
  | .incrementBy amount, value => value + amount
  | .set value, _ => value

structure Update where
  name : String
  labels : Labels
  change : Change

def Collector.update (c : Collector) (u : Update) : Collector :=
  match u.change with
  | .incrementBy amount =>
    let (c, value) := c.get u.name u.labels
    c.set u.name u.labels (value + amount)
  | .set value => c.set u.name u.labels value

def Collector.updates (c : Collector) (us : List Update) : Collector := us.foldl update c

def result (name : String) (labels : Labels) (us : List Update) : Int :=
  (us.filter fun u => u.name = name ∧ u.labels.Perm labels).foldl
    (fun value u => u.change.apply value) 0

theorem result_concat (us : List Update) (u : Update) : result name labels (us ++ [u]) =
    if u.name = name ∧ u.labels.Perm labels then u.change.apply (result name labels us)
    else result name labels us := by
  unfold result
  rw [List.filter_append, List.foldl_append]
  split_ifs with hown
  · rw [List.filter_cons_of_pos (by simpa using hown), List.filter_nil, List.foldl_cons,
      List.foldl_nil]
  · rw [List.filter_cons_of_neg (by simpa using hown), List.filter_nil, List.foldl_nil]

namespace Series

def valueAt (s : Series) (key : String) : Int :=
  (((s.metricValueMap key).bind fun place => s.metricValues[place]?).map MetricValue.value).getD 0

variable {s t : Series} {key : String} {place : Nat}

theorem Indexed.valueAt_combinedName (hs : s.Indexed) (hv : v ∈ s.metricValues) :
    s.valueAt v.combinedName = v.value := by
  obtain ⟨place, hplace⟩ := List.getElem?_of_mem hv
  rw [valueAt, (hs v.combinedName place).mpr ⟨v, hplace, rfl⟩, Option.bind_some, hplace]
  rfl

theorem Indexed.valueAt_append (hs : s.Indexed) (hnew : s.metricValueMap key = none)
    (hv : v.value = 0) (k : String) :
    valueAt { metricValueMap := fun k =>
                if k = key then some s.metricValues.length else s.metricValueMap k
              metricValues := s.metricValues ++ [v] } k = s.valueAt k := by
  simp only [valueAt]
  split_ifs with hk
  · simp [hk, hnew, hv]
  · cases hmap : s.metricValueMap k with
    | none => rfl
    | some place =>
      obtain ⟨w, hw, -⟩ := (hs k place).mp hmap
      rw [Option.bind_some, Option.bind_some,
        List.getElem?_append_left (List.getElem?_eq_some_iff.mp hw).1]

theorem Indexed.valueAt_modify (hs : s.Indexed) (hplace : s.metricValueMap key = some place)
    (value : Int) (k : String) :
    valueAt { s with metricValues := s.metricValues.modify place fun v => { v with value } } k =
      if k = key then value else s.valueAt k := by
  obtain ⟨v, hv, hname⟩ := (hs key place).mp hplace
  split_ifs with hk
  · simp [valueAt, hk, hplace, hv]
  · cases hmap : s.metricValueMap k with
    | none => simp [valueAt, hmap]
    | some other =>
      have hother : place ≠ other := by
        rintro rfl
        obtain ⟨w, hw, hk'⟩ := (hs k place).mp hmap
        rw [hv, Option.some.injEq] at hw
        exact hk (by rw [← hk', ← hw, hname])
      simp [valueAt, hmap, hother]

structure Written (name : String) (labels : Labels) (value : Int) (s t : Series) : Prop where
  indexed : t.Indexed
  valueAt : ∀ k, t.valueAt k =
    if k = MetricValue.combinedName ⟨name, labels, 0⟩ then value else s.valueAt k
  members : ∀ v ∈ t.metricValues, (v.name = name ∧ v.labels = labels) ∨
    ∃ w ∈ s.metricValues, v.name = w.name ∧ v.labels = w.labels

end Series

namespace Collector

variable {c : Collector}

structure Placed (c : Collector) (name : String) (labels : Labels) (series : Series)
    (place : Nat) : Prop where
  eq : c.getValueStruct name labels = (c.setSeries name series, place)
  indexed : series.Indexed
  place : series.metricValueMap (MetricValue.combinedName ⟨name, labels, 0⟩) = some place
  valueAt : ∀ k, series.valueAt k = ((c.values name).getD {}).valueAt k
  members : ∀ v ∈ series.metricValues, (v.name = name ∧ v.labels = labels) ∨
    v ∈ ((c.values name).getD {}).metricValues

theorem exists_placed (hindexed : ((c.values name).getD {}).Indexed) (labels : Labels) :
    ∃ series place, c.Placed name labels series place := by
  cases hmap : ((c.values name).getD {}).metricValueMap
      (MetricValue.combinedName ⟨name, labels, 0⟩) with
  | some place =>
    exact ⟨_, place, getValueStruct_of_some hmap, hindexed, hmap, fun _ => rfl, fun _ => .inr⟩
  | none =>
    refine ⟨_, _, getValueStruct_of_none hmap, hindexed.append rfl hmap, if_pos rfl,
      hindexed.valueAt_append hmap rfl, fun v hv => ?_⟩
    rcases List.mem_append.mp hv with hold | hnew
    · exact .inr hold
    · rw [List.mem_singleton.mp hnew]
      exact .inl ⟨rfl, rfl⟩

variable {series : Series} {place : Nat}

theorem Placed.get (hplaced : c.Placed name labels series place) : c.get name labels =
    (c.setSeries name series, ((c.values name).getD {}).valueAt
      (MetricValue.combinedName ⟨name, labels, 0⟩)) := by
  rw [Collector.get, hplaced.eq, ← hplaced.valueAt, Series.valueAt, hplaced.place]
  simp [getMetric]

theorem Placed.written (hplaced : c.Placed name labels series place) (value : Int) :
    Series.Written name labels value ((c.values name).getD {}) { series with
      metricValues := series.metricValues.modify place fun v => { v with value } } where
  indexed := hplaced.indexed.modify place fun _ => rfl
  valueAt k := by rw [hplaced.indexed.valueAt_modify hplaced.place, hplaced.valueAt]
  members v hv := by
    obtain ⟨i, hi⟩ := List.getElem?_of_mem hv
    simp only [List.getElem?_modify, Option.map_eq_map, Option.map_eq_some_iff] at hi
    obtain ⟨old, hold, rfl⟩ := hi
    rcases hplaced.members old (List.mem_of_getElem? hold) with hnew | hmem
    · left
      split_ifs <;> exact hnew
    · right
      refine ⟨old, hmem, ?_⟩
      split_ifs <;> exact ⟨rfl, rfl⟩

theorem update_eq {u : Update} (hindexed : ((c.values u.name).getD {}).Indexed) :
    ∃ series, c.update u = c.setSeries u.name series ∧
      Series.Written u.name u.labels (u.change.apply (((c.values u.name).getD {}).valueAt
        (MetricValue.combinedName ⟨u.name, u.labels, 0⟩))) ((c.values u.name).getD {}) series := by
  obtain ⟨series, place, hplaced⟩ := exists_placed hindexed u.labels
  refine ⟨_, ?_, hplaced.written _⟩
  unfold update
  cases u.change with
  | incrementBy amount =>
    simp only [hplaced.get]
    exact set_of_some hplaced.place
  | set value => simp [Collector.set, hplaced.eq, Change.apply]

structure Updated (us : List Update) (c : Collector) : Prop where
  indexed : ∀ name, ((c.values name).getD {}).Indexed
  valueAt : ∀ {name labels}, IsSeries name labels → ((c.values name).getD {}).valueAt
    (MetricValue.combinedName ⟨name, labels, 0⟩) = result name labels us
  members : ∀ {name}, ∀ v ∈ ((c.values name).getD {}).metricValues,
    v.name = name ∧ IsSeries name v.labels

theorem Updated.update {us : List Update} (hc : c.Updated us) {u : Update}
    (hu : IsSeries u.name u.labels) : (c.update u).Updated (us ++ [u]) := by
  obtain ⟨series, heq, hwritten⟩ := update_eq (hc.indexed u.name)
  have hseries : ∀ name, ((c.update u).values name).getD {} =
      if name = u.name then series else (c.values name).getD {} := by
    intro name
    rw [heq, setSeries]
    dsimp only
    split_ifs <;> rfl
  constructor
  · intro name
    rw [hseries]
    split_ifs
    · exact hwritten.indexed
    · exact hc.indexed name
  · intro name labels hs
    rw [hseries, result_concat, ← hc.valueAt hs]
    by_cases hname : name = u.name
    · subst hname
      rw [if_pos rfl, hwritten.valueAt]
      simp only [combinedName_inj hs hu, true_and, List.perm_comm]
      split_ifs with hperm
      · rw [(combinedName_inj hu hs).mpr ⟨rfl, hperm.symm⟩]
      · rfl
    · rw [if_neg hname, if_neg fun hown => hname hown.1.symm]
  · intro name v hv
    rw [hseries] at hv
    split_ifs at hv with hname
    · subst hname
      rcases hwritten.members v hv with ⟨hown, hlabels⟩ | ⟨w, hw, hown, hlabels⟩
      · exact ⟨hown, hlabels ▸ hu⟩
      · rw [hown, hlabels]
        exact hc.members w hw
    · exact hc.members v hv

theorem updated_of_updates (hnew : ∀ name, c.values name = none) {us : List Update}
    (hus : ∀ u ∈ us, IsSeries u.name u.labels) : (c.updates us).Updated us := by
  induction us using List.reverseRecOn with
  | nil =>
    constructor
    · intro name
      rw [updates, List.foldl_nil, hnew]
      exact Series.indexed_empty
    · intro name labels _
      rw [updates, List.foldl_nil, hnew]
      rfl
    · intro name v hv
      rw [updates, List.foldl_nil, hnew] at hv
      simp at hv
  | append_singleton us u ih =>
    rw [updates, List.foldl_append]
    exact (ih fun w hw => hus w (by simp [hw])).update (hus u (by simp))

end Collector

/-- Series are told apart by what is rendered for them, and after any updates of
a new collector each has the result of its own. -/
theorem series_kept_apart {c : Collector} (hnew : ∀ name, c.values name = none) {us : List Update}
    (hus : ∀ u ∈ us, IsSeries u.name u.labels) (hs : IsSeries name labels)
    (hs' : IsSeries name' labels') (value value' : Int) :
    (MetricValue.combinedName ⟨name, labels, value⟩ =
      MetricValue.combinedName ⟨name', labels', value'⟩ ↔ name = name' ∧ labels.Perm labels') ∧
      ((c.updates us).get name labels).2 = result name labels us ∧
      ∀ v ∈ (c.updates us).getMetric name, v.name = name ∧ v.value = result name v.labels us := by
  have hupdated := Collector.updated_of_updates hnew hus
  refine ⟨combinedName_inj hs hs', ?_, ?_⟩
  · obtain ⟨series, place, hplaced⟩ := Collector.exists_placed (hupdated.indexed name) labels
    rw [hplaced.get, hupdated.valueAt hs]
  · intro v hv
    rw [Collector.getMetric_eq] at hv
    obtain ⟨hname, hlabels⟩ := hupdated.members v hv
    refine ⟨hname, ?_⟩
    rw [← hupdated.valueAt hlabels, ← (hupdated.indexed name).valueAt_combinedName hv, ← hname]
    rfl

theorem series_kept_apart_quoted :
    ((Collector.updates {} [⟨"m", [("a", "x\",b=\"y")], .incrementBy 2⟩,
      ⟨"m", [("a", "x"), ("b", "y")], .set 5⟩]).get "m" [("b", "y"), ("a", "x")]).2 = 5 := by
  have hfirst : IsSeries "m" [("a", "x\",b=\"y")] := ⟨rfl, by decide, by decide⟩
  have hsecond : IsSeries "m" [("a", "x"), ("b", "y")] := ⟨rfl, by decide, by decide⟩
  have hread : IsSeries "m" [("b", "y"), ("a", "x")] := ⟨rfl, by decide, by decide⟩
  refine ((series_kept_apart (fun _ => rfl) ?_ hread hread 0 0).2.1).trans (by decide)
  intro u hu
  rcases List.mem_pair.mp hu with rfl | rfl
  · exact hfirst
  · exact hsecond

def MetricValue.string (v : MetricValue) : String :=
  v.combinedName ++ " " ++ (toString v.value ++ ".000000") ++ "\n"

def MetricType.string : MetricType → String
  | .counter => "counter"
  | .gauge => "gauge"

def Metric.string (metric : Metric) : String :=
  "# HELP " ++ metric.name ++ " " ++ metric.help ++ "\n" ++
    "# UNIT " ++ metric.name ++ " " ++ metric.unit ++ "\n" ++
    "# TYPE " ++ metric.name ++ " " ++ metric.type.string ++ "\n"

def Collector.texts (c : Collector) : List String :=
  c.metrics.flatMap fun metric =>
    metric.string :: (c.getMetric metric.name).map MetricValue.string

def Collector.string (c : Collector) : String := String.join c.texts ++ "# EOF\n"

def OneLine (text : String) : Prop := ∃ line, '\n' ∉ line ∧ text.toList = line ++ ['\n']

def linesOf (text : List Char) : List (List Char) := (text.splitOn '\n').dropLast

structure Collector.WellFormed (c : Collector) : Prop where
  oneLine : ∀ metric ∈ c.metrics, ∀ v ∈ c.getMetric metric.name, OneLine v.string
  read : ∀ metric ∈ c.metrics, ∀ v ∈ c.getMetric metric.name, ∃ labels,
    parseSeries v.combinedName.toList = some (v.name, labels) ∧ labels.Perm v.labels
  lines : linesOf c.string.toList = (c.metrics.flatMap fun metric =>
    linesOf metric.string.toList ++
      (c.getMetric metric.name).map fun v => v.string.toList.dropLast) ++ ["# EOF".toList]

theorem toList_ended (text : String) : (text ++ "\n").toList = text.toList ++ ['\n'] := by simp

theorem Metric.ended (metric : Metric) : ∃ line, metric.string.toList = line ++ ['\n'] := by
  unfold Metric.string
  rw [toList_ended]
  exact ⟨_, rfl⟩

theorem MetricValue.ended (v : MetricValue) : ∃ line, v.string.toList = line ++ ['\n'] := by
  unfold MetricValue.string
  rw [toList_ended]
  exact ⟨_, rfl⟩

theorem splitOn_ended (line rest : List Char) :
    (line ++ '\n' :: rest).splitOn '\n' = line.splitOn '\n' ++ rest.splitOn '\n' :=
  List.splitOnP_append_cons line rest (beq_self_eq_true '\n')

theorem linesOf_append {text rest line : List Char} (htext : text = line ++ ['\n']) :
    linesOf (text ++ rest) = linesOf text ++ linesOf rest := by
  simp only [linesOf, htext, List.append_assoc, List.singleton_append, splitOn_ended]
  simp

theorem linesOf_flatMap {texts : List String}
    (htexts : ∀ text ∈ texts, ∃ line, text.toList = line ++ ['\n']) (rest : List Char) :
    linesOf (texts.flatMap String.toList ++ rest) =
      (texts.flatMap fun text => linesOf text.toList) ++ linesOf rest := by
  induction texts with
  | nil => rfl
  | cons text texts ih =>
    obtain ⟨⟨line, hline⟩, hrest⟩ := List.forall_mem_cons.mp htexts
    rw [List.flatMap_cons, List.append_assoc, linesOf_append hline, ih hrest, List.flatMap_cons,
      List.append_assoc]

theorem OneLine.linesOf {text : String} (htext : OneLine text) :
    linesOf text.toList = [text.toList.dropLast] := by
  obtain ⟨line, hline, heq⟩ := htext
  rw [heq, Metrics.linesOf, splitOn_ended, List.splitOn_eq_singleton hline]
  simp

theorem newline_notMem_toString (value : Int) : '\n' ∉ (toString value).toList := by
  have hnat : ∀ n : Nat, '\n' ∉ (Nat.repr n).toList := by
    intro n hmem
    rw [Nat.toList_repr] at hmem
    exact absurd (Nat.isDigit_of_mem_toDigits (by decide) (by decide) hmem) (by decide)
  rw [Int.toString_eq_repr, Int.repr_eq_if]
  split_ifs
  · exact hnat _
  · simpa using hnat _

theorem newline_mem_escapeChar (c : Char) : '\n' ∈ escapeChar c ↔ c = '\n' := by
  unfold escapeChar
  split_ifs with hquote hbackslash
  · simp [hquote]
  · simp [hbackslash]
  · simp [eq_comm]

theorem mem_intercalate_of_ne {c separator : Char} (hc : c ≠ separator) (texts : List (List Char)) :
    c ∈ [separator].intercalate texts ↔ ∃ text ∈ texts, c ∈ text := by
  induction texts with
  | nil => simp
  | cons text rest ih =>
    cases rest with
    | nil => simp
    | cons => simp [ih, hc]

theorem newline_mem_combinedName (hv : IsSeries v.name v.labels) :
    '\n' ∈ v.combinedName.toList ↔ ∃ label ∈ v.labels, '\n' ∈ label.2.toList := by
  have hname := notMem_of_isIdentifier hv.identifier (c := '\n') rfl rfl
  have hperm := sortedLabels_perm hv.nodup
  rw [toList_combinedName, List.mem_append, or_iff_right hname]
  simp only [← hperm.mem_iff]
  split_ifs with hlabels
  · simp [hlabels]
  · rw [List.mem_cons, or_iff_right (by decide), List.mem_append, or_iff_left (by decide),
      mem_intercalate_of_ne (by decide)]
    simp only [List.mem_map, exists_exists_and_eq_and]
    refine exists_congr fun label => and_congr_right fun hlabel => ?_
    have hkey := notMem_of_isIdentifier (hv.keys label (hperm.mem_iff.mp hlabel))
      (c := '\n') rfl rfl
    simp [labelText, hkey, newline_mem_escapeChar]

theorem oneLine_string_iff (hv : IsSeries v.name v.labels) :
    OneLine v.string ↔ ∀ label ∈ v.labels, '\n' ∉ label.2.toList := by
  have hnumber := newline_notMem_toString v.value
  have hline : OneLine v.string ↔ '\n' ∉ v.combinedName.toList := by
    have htext : v.string.toList = (v.combinedName.toList ++ (' ' ::
        (toString v.value).toList ++ ".000000".toList)) ++ ['\n'] := by
      simp [MetricValue.string]
    have hrest : '\n' ∉ ' ' :: (toString v.value).toList ++ ".000000".toList := by
      rw [List.mem_append, List.mem_cons, not_or, not_or]
      exact ⟨⟨by decide, hnumber⟩, by decide⟩
    rw [OneLine, htext]
    simp only [List.append_cancel_right_eq, exists_eq_right', List.mem_append, hrest, or_false]
  rw [hline, newline_mem_combinedName hv]
  simp only [not_exists, not_and]

/-- The output is well formed exactly if no value of a label contains a line feed. -/
theorem exposition_wellFormed_iff {c : Collector} (hc : ∀ metric ∈ c.metrics,
    ∀ v ∈ c.getMetric metric.name, IsSeries v.name v.labels) :
    c.WellFormed ↔ ∀ metric ∈ c.metrics, ∀ v ∈ c.getMetric metric.name,
      ∀ label ∈ v.labels, '\n' ∉ label.2.toList := by
  constructor
  · intro hwell metric hmetric v hv
    exact (oneLine_string_iff (hc metric hmetric v hv)).mp (hwell.oneLine metric hmetric v hv)
  · intro hlabels
    have honeLine : ∀ metric ∈ c.metrics, ∀ v ∈ c.getMetric metric.name, OneLine v.string :=
      fun metric hmetric v hv =>
        (oneLine_string_iff (hc metric hmetric v hv)).mpr (hlabels metric hmetric v hv)
    refine ⟨honeLine, fun metric hmetric v hv => ?_, ?_⟩
    · have hs := hc metric hmetric v hv
      exact ⟨_, hs.parse, sortedLabels_perm hs.nodup⟩
    · have heof : linesOf "# EOF\n".toList = ["# EOF".toList] := by decide
      have htexts : ∀ text ∈ c.texts, ∃ line, text.toList = line ++ ['\n'] := by
        intro text htext
        obtain ⟨metric, hmetric, htext⟩ := List.mem_flatMap.mp htext
        rcases List.mem_cons.mp htext with rfl | hvalue
        · exact metric.ended
        · obtain ⟨v, -, rfl⟩ := List.mem_map.mp hvalue
          exact v.ended
      rw [Collector.string, String.toList_append, String.toList_join, linesOf_flatMap htexts,
        heof, Collector.texts, List.flatMap_assoc]
      refine congrArg (· ++ _) (List.flatMap_congr fun metric hmetric => ?_)
      have hvalues : ((c.getMetric metric.name).flatMap fun v => linesOf v.string.toList) =
          (c.getMetric metric.name).map fun v => v.string.toList.dropLast := by
        rw [List.map_eq_flatMap]
        exact List.flatMap_congr fun v hv => (honeLine metric hmetric v hv).linesOf
      rw [List.flatMap_cons, List.flatMap_map, hvalues]

def exposed (labels : Labels) : Collector where
  metrics := [⟨"m", "", "", .gauge⟩]
  values := fun name => if name = "m" then some ⟨fun _ => none, [⟨"m", labels, 0⟩]⟩ else none

theorem isSeries_exposed {labels : Labels} (hs : IsSeries "m" labels) :
    ∀ metric ∈ (exposed labels).metrics,
      ∀ v ∈ (exposed labels).getMetric metric.name, IsSeries v.name v.labels := by
  simpa [exposed, Collector.getMetric] using hs

theorem wellFormed_quoted : (exposed [("a", "x\"")]).WellFormed :=
  (exposition_wellFormed_iff (isSeries_exposed ⟨rfl, by decide, by decide⟩)).mpr
    (by simp [exposed, Collector.getMetric])

/-- The value of a label ends the line of its series and begins another one. -/
theorem line_feed_adds_line : ¬ (exposed [("a", "x\ny 1")]).WellFormed ∧
    linesOf (MetricValue.string ⟨"m", [("a", "x\ny 1")], 0⟩).toList =
      ["m\x7ba=\"x".toList, "y 1\"\x7d 0.000000".toList] := by
  have hs : IsSeries "m" [("a", "x\ny 1")] := ⟨rfl, by decide, by decide⟩
  constructor
  · intro hwell
    have hline : OneLine (MetricValue.string ⟨"m", [("a", "x\ny 1")], 0⟩) :=
      hwell.oneLine ⟨"m", "", "", .gauge⟩ (by simp [exposed]) _
        (by simp [exposed, Collector.getMetric])
    exact absurd ((oneLine_string_iff hs).mp hline) (by decide)
  · have htext : MetricValue.string ⟨"m", [("a", "x\ny 1")], 0⟩ =
        "m" ++ "\x7ba=\"x\ny 1\"\x7d 0.000000\n" := by
      simp [MetricValue.string, MetricValue.combinedName, replace, escapeChar]
      decide
    rw [htext]
    decide

end ContainerSSH.Metrics
