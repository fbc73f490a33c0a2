/-
Keyboard-interactive questions and their answers.
-/
import ContainerSSH.AuthHandlers
import Mathlib.Data.List.Induction
import Mathlib.Data.List.Nodup

namespace ContainerSSH.KeyboardInteractive

def filed {α : Type} (key : α → String) (value : α → String) (l : List α) :
    List (String × String) :=
  l.foldl (fun m a => assign (key a) (value a) m) []

variable {α : Type} {key : α → String} {value : α → String} {l : List α}

theorem filed_concat (key : α → String) (value : α → String) (l : List α) (a : α) :
    filed key value (l ++ [a]) = assign (key a) (value a) (filed key value l) := by
  rw [filed, List.foldl_append]
  rfl

theorem exists_lookup_filed (key : α → String) (value : α → String) {a : α} (ha : a ∈ l) :
    ∃ b ∈ l, key b = key a ∧ (filed key value l).lookup (key a) = some (value b) := by
  induction l using List.reverseRecOn with
  | nil => cases ha
  | append_singleton init last ih =>
    rw [filed_concat, lookup_assign]
    by_cases hlast : key a = key last
    · exact ⟨last, by simp, hlast.symm, by rw [if_pos hlast]⟩
    · have hinit : a ∈ init := by
        rcases List.mem_append.mp ha with hinit | hmem
        · exact hinit
        · exact absurd (congrArg key (List.mem_singleton.mp hmem)) hlast
      obtain ⟨b, hb, hkey, hlookup⟩ := ih hinit
      exact ⟨b, List.mem_append_left _ hb, hkey, by rw [if_neg hlast, hlookup]⟩

theorem forall_lookup_filed_iff : (∀ a ∈ l, (filed key value l).lookup (key a) = some (value a)) ↔
      ∀ a ∈ l, ∀ b ∈ l, key a = key b → value a = value b := by
  constructor
  · intro h a ha b hb hkey
    have hsame := (h a ha).symm.trans (hkey ▸ h b hb)
    exact Option.some.inj hsame
  · intro h a ha
    obtain ⟨b, hb, hkey, hlookup⟩ := exists_lookup_filed key value ha
    rw [hlookup, h b hb a ha hkey]

abbrev ClientChallenge : Type :=
  String → String → List String → List Bool → List String × Option GoError

def getID (k : KeyboardInteractiveQuestion) : String := if k.id ≠ "" then k.id else k.question

def get (answers : List (String × String)) (question : KeyboardInteractiveQuestion) :
    Except GoError String :=
  match answers.lookup (getID question) with
  | some val => .ok val
  | none => .error (.plain "no answer for question")

def challengeWrapper (user : String) (challenge : ClientChallenge)
    (instruction : String) (questions : List KeyboardInteractiveQuestion) :
    Option (List (String × String) × Option GoError) :=
  let (answerList, err) := challenge user instruction
    (questions.map fun question => question.question)
    (questions.map fun question => question.echoResponse)
  if answerList.length ≤ questions.length then
    some (filed (fun p => getID p.1) (fun p => p.2) (questions.zip answerList), err)
  else none

def handlerChallenge (user : String) (challenge : ClientChallenge)
    (instruction : String) (questions : List KeyboardInteractiveQuestion) :
    Option (Except GoError (List (String × String))) :=
  match challengeWrapper user challenge instruction questions with
  | none => none
  | some (_, some err) => some (.error err)
  | some (a, none) => some (.ok (filed KeyboardInteractiveQuestion.id
      (fun question => (get a question).toOption.getD "") questions))

def Delivered (questions : List KeyboardInteractiveQuestion) (answers : List String)
    (delivered : List (String × String)) : Prop :=
  ∀ (i : Nat) (question : KeyboardInteractiveQuestion) (answer : String),
    questions[i]? = some question → answers[i]? = some answer →
      delivered.lookup question.id = some answer

def AnsweredAlike (questions : List KeyboardInteractiveQuestion) (answers : List String) : Prop :=
  ∀ p ∈ questions.zip answers, ∀ q ∈ questions.zip answers, p.1.id = "" → q.1.id = "" → p.2 = q.2

instance decidableAnsweredAlike (questions : List KeyboardInteractiveQuestion)
    (answers : List String) : Decidable (AnsweredAlike questions answers) := by
  unfold AnsweredAlike
  infer_instance

theorem delivered_iff_forall_mem {questions : List KeyboardInteractiveQuestion}
    {answers : List String} {delivered : List (String × String)} :
    Delivered questions answers delivered ↔
      ∀ p ∈ questions.zip answers, delivered.lookup p.1.id = some p.2 := by
  simp only [List.mem_iff_getElem?, List.getElem?_zip_eq_some]
  exact ⟨fun h p ⟨i, hq, ha⟩ => h i p.1 p.2 hq ha,
    fun h i question answer hq ha => h (question, answer) ⟨i, hq, ha⟩⟩

section Distinct

variable {questions : List KeyboardInteractiveQuestion} {answers : List String}

theorem answer_eq_of_getID_eq (hids : (questions.map getID).Nodup)
    {p q : KeyboardInteractiveQuestion × String} (hp : p ∈ questions.zip answers)
    (hq : q ∈ questions.zip answers) (hsame : getID p.1 = getID q.1) : p.2 = q.2 := by
  obtain ⟨i, hi⟩ := List.mem_iff_getElem?.mp hp
  obtain ⟨j, hj⟩ := List.mem_iff_getElem?.mp hq
  obtain ⟨hpi, hai⟩ := List.getElem?_zip_eq_some.mp hi
  obtain ⟨hqj, haj⟩ := List.getElem?_zip_eq_some.mp hj
  have hij : i = j := by
    refine (List.getElem?_inj ?_ hids).mp ?_
    · rw [List.length_map]
      exact (List.getElem?_eq_some_iff.mp hpi).1
    · rw [List.getElem?_map, List.getElem?_map, hpi, hqj, Option.map_some, Option.map_some, hsame]
  rw [hij, haj] at hai
  exact (Option.some.inj hai).symm

theorem get_filed (hids : (questions.map getID).Nodup)
    {p : KeyboardInteractiveQuestion × String} (hp : p ∈ questions.zip answers) :
    get (filed (fun p => getID p.1) (fun p => p.2) (questions.zip answers)) p.1 = .ok p.2 := by
  have hall := forall_lookup_filed_iff.mpr
    (fun p hp q hq hsame => answer_eq_of_getID_eq hids hp hq hsame) p hp
  rw [get, hall]

theorem mem_questions_iff (hlength : answers.length = questions.length)
    {question : KeyboardInteractiveQuestion} :
    question ∈ questions ↔ ∃ p ∈ questions.zip answers, p.1 = question := by
  rw [← List.mem_map, List.map_fst_zip (Nat.le_of_eq hlength.symm)]

theorem forall_lookup_id_iff (hlength : answers.length = questions.length)
    (hids : (questions.map getID).Nodup) {value : KeyboardInteractiveQuestion → String}
    (hvalue : ∀ p ∈ questions.zip answers, value p.1 = p.2) : Delivered questions answers
        (filed KeyboardInteractiveQuestion.id value questions) ↔
      AnsweredAlike questions answers := by
  have hdelivered : Delivered questions answers
      (filed KeyboardInteractiveQuestion.id value questions) ↔
      ∀ q ∈ questions, (filed KeyboardInteractiveQuestion.id value questions).lookup
        q.id = some (value q) := by
    rw [delivered_iff_forall_mem]
    simp only [mem_questions_iff hlength, forall_exists_index, and_imp]
    constructor
    · rintro h q p hp rfl
      rw [hvalue p hp]
      exact h p hp
    · intro h p hp
      rw [← hvalue p hp]
      exact h p.1 p hp rfl
  rw [hdelivered, forall_lookup_filed_iff]
  simp only [mem_questions_iff hlength, forall_exists_index, and_imp]
  constructor
  · intro h p hp q hq hpid hqid
    rw [← hvalue p hp, ← hvalue q hq]
    exact h p.1 p hp rfl q.1 q hq rfl (hpid.trans hqid.symm)
  · rintro h _ p hp rfl _ q hq rfl hid
    rw [hvalue p hp, hvalue q hq]
    by_cases hempty : p.1.id = ""
    · exact h p hp q hq hempty (hid ▸ hempty)
    · refine answer_eq_of_getID_eq hids hp hq ?_
      rw [getID, getID, if_pos hempty, if_pos (hid ▸ hempty), hid]

end Distinct

/-- For questions with distinct effective ids and as many answers: the
authenticator finds the answer to every question under its id if and only if the
questions without an id were answered alike. -/
theorem answers_delivered_iff {user instruction : String}
    {challenge : ClientChallenge} {questions : List KeyboardInteractiveQuestion}
    {answers : List String} (hlength : answers.length = questions.length)
    (hids : (questions.map getID).Nodup) (hclient : challenge user instruction
      (questions.map fun question => question.question)
      (questions.map fun question => question.echoResponse) = (answers, none)) : ∃ delivered,
      handlerChallenge user challenge instruction questions = some (.ok delivered) ∧
      (Delivered questions answers delivered ↔ AnsweredAlike questions answers) := by
  have hwrapper : challengeWrapper user challenge instruction questions =
      some (filed (fun p => getID p.1) (fun p => p.2) (questions.zip answers), none) := by
    rw [challengeWrapper, hclient]
    exact if_pos (Nat.le_of_eq hlength)
  refine ⟨_, by rw [handlerChallenge, hwrapper], ?_⟩
  refine forall_lookup_id_iff hlength hids fun p hp => ?_
  rw [get_filed hids hp]
  rfl

def answering (answers : List String) : ClientChallenge := fun _ _ _ _ => (answers, none)

theorem answers_delivered_code : ∃ delivered, handlerChallenge "foo" (answering ["1", "2"]) ""
        [⟨"code", "Code: ", false⟩, ⟨"", "PIN: ", true⟩] = some (.ok delivered) ∧
      Delivered [⟨"code", "Code: ", false⟩, ⟨"", "PIN: ", true⟩] ["1", "2"]
        delivered := by
  obtain ⟨delivered, hanswers, hiff⟩ : ∃ delivered, handlerChallenge "foo" (answering ["1", "2"]) ""
        [⟨"code", "Code: ", false⟩, ⟨"", "PIN: ", true⟩] = some (.ok delivered) ∧
      (Delivered [⟨"code", "Code: ", false⟩, ⟨"", "PIN: ", true⟩] ["1", "2"] delivered ↔
        AnsweredAlike [⟨"code", "Code: ", false⟩, ⟨"", "PIN: ", true⟩] ["1", "2"]) :=
    answers_delivered_iff rfl (by decide) rfl
  exact ⟨delivered, hanswers, hiff.mpr (by decide)⟩

/-- Of two questions without an id, the first gets the answer to the second. -/
theorem second_answer_overwrites : ∃ delivered, handlerChallenge "foo" (answering ["1", "2"]) ""
        [⟨"", "Code: ", false⟩, ⟨"", "PIN: ", true⟩] = some (.ok delivered) ∧
      delivered = [("", "2")] ∧ ¬ Delivered [⟨"", "Code: ", false⟩, ⟨"", "PIN: ", true⟩] ["1", "2"]
        delivered := by
  refine ⟨_, rfl, by decide, fun h => ?_⟩
  exact absurd (h 0 _ _ rfl rfl) (by decide)

end ContainerSSH.KeyboardInteractive
