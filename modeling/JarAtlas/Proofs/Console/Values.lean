/-
Where the values of options come from.

Reading a command line makes no characters up: the value of an option is an
argument or a part of one.  So a character that no argument holds is in no
value.
-/
import JarAtlas.Console.Arguments
import JarAtlas.Proofs.Traversal

namespace JarAtlas
namespace Console

variable {kind : Char → Prop} {rules : List OptionRule} {words more : Words}

/-- Whether the values of given options are made of characters of a kind. -/
def Words.MadeOf (kind : Char → Prop) (words : Words) : Prop :=
  ∀ option ∈ words.options, ∀ c ∈ option.value.toList, kind c

theorem Words.madeOf_empty : Words.empty.MadeOf kind :=
  fun _ member => absurd member List.not_mem_nil

theorem Words.madeOf_addOption {name value : String} (made : words.MadeOf kind)
    (chars : ∀ c ∈ value.toList, kind c) (added : words.addOption name value = .ok more) :
    more.MadeOf kind := by
  rw [addOption] at added
  split at added
  · cases added
  · cases added
    intro option member
    rcases List.mem_append.mp member with earlier | new
    · exact made option earlier
    · rw [List.mem_singleton.mp new]
      exact chars

theorem Words.mem_of_value? {name value : String} (given : words.value? name = some value) :
    ∃ option ∈ words.options, option.value = value := by
  obtain ⟨option, found, rfl⟩ := Option.map_eq_some_iff.mp given
  exact ⟨option, List.mem_of_find?_eq_some found, rfl⟩

def Reading.MadeOf (kind : Char → Prop) : Reading → Prop
  | separator => True
  | operand => True
  | options words waiting =>
    words.MadeOf kind ∧
      ∀ option ∈ waiting, ∀ value ∈ option.attached, ∀ c ∈ value, kind c

theorem Reading.madeOf_options_none (made : words.MadeOf kind) :
    (options words none).MadeOf kind :=
  ⟨made, fun _ absent => absurd absent (Option.not_mem_none _)⟩

theorem Reading.madeOf_options_some {name : String} {attached : Option (List Char)}
    (made : words.MadeOf kind) (chars : ∀ value ∈ attached, ∀ c ∈ value, kind c) :
    (options words (some ⟨name, attached⟩)).MadeOf kind := by
  refine ⟨made, ?_⟩
  intro option here
  cases here
  exact chars

theorem madeOf_readLetters {letters : List Char} {reading : Reading} (made : words.MadeOf kind)
    (chars : ∀ c ∈ letters, kind c) (read : readLetters rules words letters = .ok reading) :
    reading.MadeOf kind := by
  induction letters generalizing words with
  | nil =>
      cases read
      exact Reading.madeOf_options_none made
  | cons letter rest ih =>
      have restChars : ∀ c ∈ rest, kind c := fun c member =>
        chars c (List.mem_cons_of_mem letter member)
      rw [readLetters] at read
      split at read
      · cases read
      · rename_i rule _
        split at read
        · cases read
        · split at read
          · split at read
            · cases read
              exact Reading.madeOf_options_some made fun _ absent =>
                absurd absent (Option.not_mem_none _)
            · rename_i value
              cases read
              refine Reading.madeOf_options_some made ?_
              intro attached here c member
              cases here
              exact restChars c (List.mem_cons_of_mem '=' member)
            · cases read
              refine Reading.madeOf_options_some made ?_
              intro attached here
              cases here
              exact restChars
          · split at read
            · rename_i added
              exact ih (Words.madeOf_addOption made (by simp) added) restChars read
            · cases read

theorem madeOf_readLong {name : List Char} {attached : Option (List Char)} {reading : Reading}
    (made : words.MadeOf kind) (chars : ∀ value ∈ attached, ∀ c ∈ value, kind c)
    (read : readLong rules words name attached = .ok reading) : reading.MadeOf kind := by
  rw [readLong] at read
  split at read
  · cases read
  · split at read
    · cases read
      exact Reading.madeOf_options_some made chars
    · split at read
      · cases read
      · split at read
        · cases read
        · rename_i rule _ _ _ _
          cases added : words.addOption rule.name "" with
          | error refusal =>
              rw [added] at read
              cases read
          | ok more =>
              rw [added] at read
              cases read
              exact Reading.madeOf_options_none (Words.madeOf_addOption made (by simp) added)

theorem madeOf_readWord {word : String} {reading : Reading} (made : words.MadeOf kind)
    (chars : ∀ c ∈ word.toList, kind c) (read : readWord rules words word = .ok reading) :
    reading.MadeOf kind := by
  rw [readWord] at read
  split at read
  · cases read
    trivial
  · rename_i long _ spelled
    rw [spelled] at chars
    have longChars : ∀ c ∈ long, kind c := fun c member =>
      chars c (List.mem_cons_of_mem _ (List.mem_cons_of_mem _ member))
    split at read
    · rename_i name value cut
      refine madeOf_readLong made ?_ read
      intro attached here c member
      cases here
      apply longChars
      rw [cutAtFirst?_eq_append cut]
      exact List.mem_append_right _ (List.mem_cons_of_mem _ member)
    · exact madeOf_readLong made (fun _ absent => absurd absent (Option.not_mem_none _)) read
  · cases read
    trivial
  · rename_i letters _ _ _ spelled
    rw [spelled] at chars
    exact madeOf_readLetters made (fun c member => chars c (List.mem_cons_of_mem _ member)) read
  · cases read
    trivial

variable {line : LineRules} {onlyFirst : Bool} {arguments rest : List String}

theorem options_addOperand (words : Words) (operand : String) :
    (words.addOperand operand).options = words.options := rfl

theorem options_readOperands (read : readWords.readOperands line words arguments = .ok more) :
    more.options = words.options := by
  induction arguments generalizing words with
  | nil =>
      cases read
      rfl
  | cons word arguments ih =>
      rw [readWords.readOperands] at read
      split at read
      · rw [ih read, options_addOperand]
      · cases read

theorem madeOf_readWords (made : words.MadeOf kind)
    (chars : ∀ argument ∈ arguments, ∀ c ∈ argument.toList, kind c)
    (read : readWords line onlyFirst words arguments = .ok (more, rest)) :
    more.MadeOf kind ∧ ∀ argument ∈ rest, argument ∈ arguments := by
  have behind {word : String} {others : List String}
      (chars : ∀ argument ∈ word :: others, ∀ c ∈ argument.toList, kind c) :
      ∀ argument ∈ others, ∀ c ∈ argument.toList, kind c :=
    fun argument member => chars argument (List.mem_cons_of_mem word member)
  have longer {word : String} {others : List String}
      (told : more.MadeOf kind ∧ ∀ argument ∈ rest, argument ∈ others) :
      more.MadeOf kind ∧ ∀ argument ∈ rest, argument ∈ word :: others :=
    ⟨told.1, fun argument member => List.mem_cons_of_mem word (told.2 argument member)⟩
  fun_induction readWords line onlyFirst words arguments with
  | case1 words =>
      cases read
      exact ⟨made, fun _ member => member⟩
  | case4 words word others separates _ =>
      cases operands : readWords.readOperands line words others with
      | error refusal =>
          rw [operands] at read
          cases read
      | ok told =>
          rw [operands] at read
          cases read
          refine ⟨?_, fun _ member => absurd member List.not_mem_nil⟩
          rw [Words.MadeOf, options_readOperands operands]
          exact made
  | case5 words word others operand isOperand _ =>
      cases read
      exact ⟨made, fun _ member => List.mem_cons_of_mem word member⟩
  | case6 words word others operand isOperand _ ih =>
      exact longer (ih made (behind chars) read)
  | case8 words word others given options ih =>
      have reading := madeOf_readWord made (chars word List.mem_cons_self) options
      exact longer (ih reading.1 (behind chars) read)
  | case9 words word others given name value attached _ more added ih =>
      have reading := madeOf_readWord made (chars word List.mem_cons_self) attached
      have valueChars : ∀ c ∈ (String.ofList value).toList, kind c := by
        rw [String.toList_ofList]
        exact reading.2 _ rfl value rfl
      exact longer (ih (Words.madeOf_addOption reading.1 valueChars added) (behind chars) read)
  | case13 words word given name waits value others _ more added ih =>
      have reading := madeOf_readWord made (chars word List.mem_cons_self) waits
      have valueChars := behind chars value List.mem_cons_self
      exact longer (longer
        (ih (Words.madeOf_addOption reading.1 valueChars added) (behind (behind chars)) read))
  | _ => cases read

theorem commandNamed?_commandOf {name : String} {rules : CommandRules}
    {order : AnalyzeOrder} (named : commandNamed? name = some rules)
    (analyzes : rules.commandOf words = .ok (.analyze order)) :
    order.namespaceText = words.value? "namespace" := by
  unfold commandNamed? at named
  split at named <;> cases named
  · simp only [CommandRules.make, analyzeOf] at analyzes
    split at analyzes
    · cases analyzes
      rfl
    · cases analyzes
  · simp only [CommandRules.make, showOf] at analyzes
    split at analyzes <;> cases analyzes
  · cases analyzes
  · cases analyzes
  · cases analyzes

theorem namespaceText_madeOf {order : AnalyzeOrder} {store : Option String} {text : String}
    (chars : ∀ argument ∈ arguments, ∀ c ∈ argument.toList, kind c)
    (parsed : Invocation.ofArguments arguments = .ok ⟨.analyze order, store⟩)
    (stated : order.namespaceText = some text) : ∀ c ∈ text.toList, kind c := by
  obtain ⟨⟨before, rest⟩, outer, parsed⟩ := exists_of_bind_ok parsed
  have restChars := (madeOf_readWords Words.madeOf_empty chars outer).2
  dsimp only at parsed
  split at parsed
  · cases parsed
  · split at parsed
    · cases parsed
    · rename_i rules named
      obtain ⟨⟨after, left⟩, inner, parsed⟩ := exists_of_bind_ok parsed
      obtain ⟨command, commanded, parsed⟩ := exists_of_bind_ok parsed
      cases parsed
      rw [commandNamed?_commandOf named commanded] at stated
      obtain ⟨option, member, rfl⟩ := Words.mem_of_value? stated
      exact (madeOf_readWords Words.madeOf_empty
        (fun argument behind => chars argument (restChars argument behind)) inner).1 option member
  · cases parsed

end Console
end JarAtlas
