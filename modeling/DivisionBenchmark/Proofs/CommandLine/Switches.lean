import DivisionBenchmark.CommandLine.Parsing
import DivisionBenchmark.Fault

/-!
# Switches on a command line

A switch has a long name and no letter, so it is given by one argument
(`DivisionBenchmark.CommandLine.Switch.argument`) and in no other way. What the other arguments do
has nothing to do with it: a scan that is told to have a switch on or off goes on as it would have
(`DivisionBenchmark.CommandLine.Scan.step_turn`), so that a run of arguments without the switch
carries over from one setting of it to the other.

Taking the switch out of a command line is not quite that, because an argument that gives a
parameter also settles what was waiting for its value. It comes to the same in the end
(`DivisionBenchmark.CommandLine.Scan.SettlesTo`).

Main statements:

* `DivisionBenchmark.CommandLine.isOn_of_parse`: a switch is on where its argument is given;
* `DivisionBenchmark.CommandLine.parse_insert_argument`,
  `DivisionBenchmark.CommandLine.parse_erase_argument`: a command line with the argument put in
  front of it where it is missing, or taken out of it.
-/

namespace DivisionBenchmark.CommandLine

variable {switch other : Switch} {on : Bool}

/-! ### Options with a switch turned -/

namespace Options

variable {o o' : Options}

/-- **The options with a switch on or off.** -/
def turn (o : Options) (switch : Switch) (on : Bool) : Options :=
  match switch with
  | .compactJson => { o with compactJson := on }
  | .showPercentiles => { o with showPercentiles := on }
  | .list => { o with list := on }
  | .dryRun => { o with dryRun := on }

@[simp] theorem isOn_turn : (o.turn switch on).isOn switch = on := by
  cases switch <;> rfl

@[simp] theorem turn_turn {before : Bool} :
    (o.turn switch before).turn switch on = o.turn switch on := by
  cases switch <;> rfl

@[simp] theorem turn_isOn : o.turn switch (o.isOn switch) = o := by
  cases switch <;> rfl

/-- Options have a switch as it was last turned. -/
theorem isOn_of_turn_eq (h : o.turn switch on = o) : o.isOn switch = on := by
  rw [← h, isOn_turn]

theorem turnOn_eq (o : Options) (switch : Switch) :
    o.turnOn switch =
      if o.isOn switch then .error (.givenAgain (.switch switch))
      else .ok (o.turn switch true) := by
  cases switch <;> rfl

/-- Another switch is turned on as it would have been. -/
theorem turnOn_turn (h : other ≠ switch) :
    (o.turn switch on).turnOn other = (·.turn switch on) <$> o.turnOn other := by
  have hother : (o.turn switch on).isOn other = o.isOn other := by
    cases switch <;> cases other <;> first | rfl | exact absurd rfl h
  have hcomm : (o.turn switch on).turn other true = (o.turn other true).turn switch on := by
    cases switch <;> cases other <;> first | rfl | exact absurd rfl h
  rw [turnOn_eq, turnOn_eq, hother, hcomm]
  cases o.isOn other <;> rfl

/-- A setting is given as it would have been. -/
theorem set_turn (setting : Setting) (value : String) :
    (o.turn switch on).set setting value = (·.turn switch on) <$> o.set setting value := by
  cases switch <;> cases setting <;> simp only [turn, set, map_bind, map_pure]

end Options

/-! ### The argument of a switch -/

/-- The parameter of a long name is a switch where the name is that of the switch. -/
theorem Parameter.ofLong?_eq_switch_iff {name : String} :
    ofLong? name = some (.switch switch) ↔ name = switch.long := by
  constructor
  · intro h
    have hname := List.find?_some h
    exact (beq_iff_eq.mp hname).symm
  · rintro rfl
    cases switch <;> rfl

/-- No letter gives a switch. -/
theorem Parameter.ofLetter?_ne_switch (c : Char) : ofLetter? c ≠ some (.switch switch) := by
  intro h
  cases List.find?_some h

/-- **The argument that gives a switch.** -/
def Switch.argument (switch : Switch) : String := "--" ++ switch.long

theorem Argument.ofText_argument : ofText switch.argument = .long switch.long none := by
  cases switch <;> rfl

/-- An argument that is a long name and nothing else is that name behind two hyphens. -/
theorem Argument.eq_of_ofText {text name : String} (h : ofText text = .long name none) :
    text = "--" ++ name := by
  unfold ofText at h
  split at h
  · cases h
  · rename_i rest htext
    split at h
    · cases h
    · cases h
      rw [← String.toList_inj, htext]
      simp
  · cases h
  · cases h

/-! ### Scans with a switch turned -/

namespace Scan

variable {s s' t t' : Scan}

/-- **The scan with a switch on or off.** -/
def turn (s : Scan) (switch : Switch) (on : Bool) : Scan :=
  { s with options := s.options.turn switch on }

theorem settle_turn : (s.turn switch on).settle = (·.turn switch on) <$> s.settle := by
  obtain ⟨options, pending, trailing⟩ := s
  cases pending with
  | none => rfl
  | some waiting =>
    obtain ⟨setting, value⟩ := waiting
    cases value with
    | none => rfl
    | some value =>
      simp only [settle, turn, Options.set_turn, orStop]
      cases options.set setting value <;> rfl

theorem give_turn (setting : Setting) (attached : Option String) :
    (s.turn switch on).give setting attached =
      (·.turn switch on) <$> s.give setting attached := by
  rw [give, give, settle_turn]
  cases s.settle with
  | error stop => rfl
  | ok t =>
    cases attached with
    | none => rfl
    | some value =>
      simp only [turn, orStop, Functor.map, Except.map, bind, Except.bind, Options.set_turn]
      cases t.options.set setting value <;> rfl

theorem giveBare_turn {parameter : Parameter} (h : parameter ≠ .switch switch) :
    (s.turn switch on).giveBare parameter = (·.turn switch on) <$> s.giveBare parameter := by
  cases parameter with
  | setting setting => exact give_turn setting none
  | switch other =>
    have hother : other ≠ switch := fun heq => h (heq ▸ rfl)
    rw [giveBare, giveBare, settle_turn]
    cases s.settle with
    | error stop => rfl
    | ok t =>
      simp only [turn, orStop, Functor.map, Except.map, bind, Except.bind,
        Options.turnOn_turn hother]
      cases t.options.turnOn other <;> rfl
  | help | version =>
    rw [giveBare, giveBare, settle_turn]
    cases s.settle <;> rfl

theorem long_turn {name : String} {value : Option String}
    (h : ¬ (name = switch.long ∧ value = none)) :
    (s.turn switch on).long name value = (·.turn switch on) <$> s.long name value := by
  unfold long
  cases hname : Parameter.ofLong? name with
  | none => rfl
  | some parameter =>
    cases parameter with
    | setting setting => exact give_turn setting value
    | switch other =>
      cases value with
      | some value => rfl
      | none =>
        refine giveBare_turn fun heq => h ⟨?_, rfl⟩
        exact Parameter.ofLong?_eq_switch_iff.mp (heq ▸ hname)
    | help | version =>
      cases value with
      | some value => rfl
      | none => exact giveBare_turn nofun

theorem letters_turn (letters : List Char) :
    (s.turn switch on).letters letters = (·.turn switch on) <$> s.letters letters := by
  induction letters generalizing s with
  | nil => rfl
  | cons c rest ih =>
    have hbare {parameter : Parameter} (h : parameter ≠ .switch switch) :
        ((s.turn switch on).giveBare parameter >>= fun t => t.letters rest) =
          (·.turn switch on) <$> (s.giveBare parameter >>= fun t => t.letters rest) := by
      rw [giveBare_turn h]
      cases s.giveBare parameter with
      | error stop => rfl
      | ok t => exact ih
    unfold Scan.letters
    cases hc : Parameter.ofLetter? c with
    | none => rfl
    | some parameter =>
      cases parameter with
      | setting setting =>
        dsimp only
        split <;> exact give_turn _ _
      | switch other => exact absurd hc (Parameter.ofLetter?_ne_switch c)
      | help | version => exact hbare nofun

theorem stray_turn (text : String) :
    (s.turn switch on).stray text = (·.turn switch on) <$> s.stray text := by
  obtain ⟨options, pending, trailing⟩ := s
  simp only [stray, turn]
  split <;> rfl

/-- **What is known of anything else** is the same whether a switch is on or off. -/
theorem step_turn {text : String} (h : text ≠ switch.argument) :
    (s.turn switch on).step text = (·.turn switch on) <$> s.step text := by
  unfold step
  rw [show (s.turn switch on).trailing = s.trailing from rfl]
  split
  · exact stray_turn text
  · cases hform : Argument.ofText text with
    | separator => rfl
    | long name value =>
      refine long_turn fun ⟨hname, hvalue⟩ => h ?_
      subst hname hvalue
      exact Argument.eq_of_ofText hform
    | letters letters => exact letters_turn letters
    | other => exact stray_turn text

/-- A run of arguments that do not give the switch is the same as well. -/
theorem foldlM_step_turn {arguments : List String} (h : switch.argument ∉ arguments) :
    arguments.foldlM step (s.turn switch on) =
      (·.turn switch on) <$> arguments.foldlM step s := by
  induction arguments generalizing s with
  | nil => rfl
  | cons text rest ih =>
    rw [List.mem_cons, not_or] at h
    obtain ⟨htext, hrest⟩ := h
    rw [List.foldlM_cons, List.foldlM_cons, step_turn (Ne.symm htext)]
    cases s.step text with
    | error stop => rfl
    | ok t => exact ih hrest

/-! ### What a switch is after some arguments -/

/-- What is the same with the switch turned as it is leaves it so. -/
theorem isOn_of_turn_eq {x : Except Stop Scan}
    (hturn : x = (·.turn switch on) <$> x) (hx : x = .ok t) : t.options.isOn switch = on := by
  rw [hx] at hturn
  exact Options.isOn_of_turn_eq (congrArg Scan.options (Except.ok.inj hturn)).symm

theorem turn_isOn : s.turn switch (s.options.isOn switch) = s := by
  rw [turn, Options.turn_isOn]

theorem isOn_of_settle (h : s.settle = .ok t) :
    t.options.isOn switch = s.options.isOn switch :=
  isOn_of_turn_eq (by rw [← settle_turn, turn_isOn]) h

theorem isOn_of_step {text : String} (htext : text ≠ switch.argument) (h : s.step text = .ok t) :
    t.options.isOn switch = s.options.isOn switch :=
  isOn_of_turn_eq (by rw [← step_turn htext, turn_isOn]) h

theorem isOn_of_foldlM {arguments : List String} (hargs : switch.argument ∉ arguments)
    (h : arguments.foldlM step s = .ok t) : t.options.isOn switch = s.options.isOn switch :=
  isOn_of_turn_eq (by rw [← foldlM_step_turn hargs, turn_isOn]) h

/-- **The argument of a switch** settles what waits, and turns the switch on if it is off. -/
theorem step_argument_eq_ok_iff :
    s.step switch.argument = .ok t ↔
      s.trailing = false ∧ ∃ u, s.settle = .ok u ∧ u.options.isOn switch = false ∧
        t = u.turn switch true := by
  have hlong : Parameter.ofLong? switch.long = some (.switch switch) :=
    Parameter.ofLong?_eq_switch_iff.mpr rfl
  unfold step
  split
  · -- behind a separator the argument gives no parameter
    rename_i htrailing
    simp only [htrailing, Bool.true_eq_false, false_and, iff_false, stray]
    split
    · simp_all
    · nofun
  · rename_i htrailing
    simp only [htrailing, true_and, Argument.ofText_argument, long, hlong, giveBare]
    rw [bind_eq_ok_iff]
    refine exists_congr fun u => and_congr_right fun _ => ?_
    rw [Options.turnOn_eq]
    cases u.options.isOn switch with
    | true =>
      constructor
      · intro h
        cases h
      · rintro ⟨h, -⟩
        cases h
    | false =>
      constructor
      · intro h
        exact ⟨rfl, (Except.ok.inj h).symm⟩
      · rintro ⟨-, rfl⟩
        rfl

/-- A switch that is on is not given any more. -/
theorem argument_notMem_of_isOn {arguments : List String} (hon : s.options.isOn switch = true)
    (h : arguments.foldlM step s = .ok t) : switch.argument ∉ arguments := by
  induction arguments generalizing s with
  | nil => exact List.not_mem_nil
  | cons text rest ih =>
    rw [List.foldlM_cons] at h
    obtain ⟨u, hstep, hrest⟩ := bind_eq_ok_iff.mp h
    by_cases htext : text = switch.argument
    · subst htext
      obtain ⟨-, v, hsettle, hoff, -⟩ := step_argument_eq_ok_iff.mp hstep
      rw [isOn_of_settle hsettle, hon] at hoff
      cases hoff
    · refine List.not_mem_cons_of_ne_of_not_mem (Ne.symm htext) (ih ?_ hrest)
      rw [isOn_of_step htext hstep, hon]

/-! ### Settling earlier than a parameter does -/

/-- **A scan settles to another**: they are the same, or the other is what it settles to. -/
def SettlesTo (s t : Scan) : Prop := s = t ∨ s.settle = .ok t

theorem settle_eq_ok_self (h : s.pending = none) : s.settle = .ok s := by
  rw [settle, h]

/-- Nothing waits in a scan that is settled, and a separator comes between to no effect. -/
theorem pending_of_settle (h : s.settle = .ok t) :
    t.pending = none ∧ t.trailing = s.trailing ∧
      settle { s with trailing := true } = .ok { t with trailing := true } := by
  obtain ⟨options, pending, trailing⟩ := s
  cases pending with
  | none =>
    obtain rfl := Except.ok.inj h
    exact ⟨rfl, rfl, rfl⟩
  | some waiting =>
    obtain ⟨setting, value⟩ := waiting
    cases value with
    | none => cases h
    | some value =>
      obtain ⟨set, hset, hreturn⟩ := bind_eq_ok_iff.mp h
      obtain rfl := Except.ok.inj hreturn
      exact ⟨rfl, rfl, bind_eq_ok_iff.mpr ⟨set, hset, rfl⟩⟩

theorem SettlesTo.settle (h : SettlesTo s t) (ht : t.settle = .ok t') : s.settle = .ok t' := by
  rcases h with rfl | h
  · exact ht
  · rw [h, ← ht, settle_eq_ok_self (pending_of_settle h).1]

theorem give_of_settle (h : s.settle = .ok t) (setting : Setting) (attached : Option String) :
    s.give setting attached = t.give setting attached := by
  rw [give, give, h, settle_eq_ok_self (pending_of_settle h).1]

theorem giveBare_of_settle (h : s.settle = .ok t) (parameter : Parameter) :
    s.giveBare parameter = t.giveBare parameter := by
  have hself : t.settle = .ok t := settle_eq_ok_self (pending_of_settle h).1
  cases parameter with
  | setting setting => exact give_of_settle h setting none
  | switch | help | version => rw [giveBare, giveBare, h, hself]

theorem long_of_settle (h : s.settle = .ok t) (name : String) (value : Option String) :
    s.long name value = t.long name value := by
  unfold long
  split
  · rfl
  · exact give_of_settle h _ _
  · rfl
  · exact giveBare_of_settle h _

theorem letters_of_settle (h : s.settle = .ok t) (c : Char) (rest : List Char) :
    s.letters (c :: rest) = t.letters (c :: rest) := by
  unfold Scan.letters
  split
  · rfl
  · split <;> exact give_of_settle h _ _
  · rw [giveBare_of_settle h]

/-- A step that succeeds once what waits is settled succeeds before. -/
theorem SettlesTo.step {text : String} (h : SettlesTo s t) (ht : t.step text = .ok t') :
    ∃ s', s.step text = .ok s' ∧ SettlesTo s' t' := by
  rcases h with rfl | h
  · exact ⟨t', ht, .inl rfl⟩
  obtain ⟨hpending, htrailing, hbehind⟩ := pending_of_settle h
  -- nothing waits any more, so nothing takes an argument that gives no parameter
  have hstray : t.stray text ≠ .ok t' := by
    simp only [stray, hpending]
    nofun
  unfold Scan.step at ht ⊢
  rw [htrailing] at ht
  split at ht
  · exact absurd ht hstray
  · rename_i hbefore
    rw [if_neg hbefore]
    cases hform : Argument.ofText text with
    | separator =>
      rw [hform] at ht
      obtain rfl := Except.ok.inj ht
      exact ⟨_, rfl, .inr hbehind⟩
    | long name value =>
      rw [hform] at ht
      exact ⟨t', (long_of_settle h name value).trans ht, .inl rfl⟩
    | letters letters =>
      rw [hform] at ht
      cases letters with
      | nil =>
        obtain rfl := Except.ok.inj ht
        exact ⟨s, rfl, .inr h⟩
      | cons c rest => exact ⟨t', (letters_of_settle h c rest).trans ht, .inl rfl⟩
    | other =>
      rw [hform] at ht
      exact absurd ht hstray

/-- So does a run of arguments. -/
theorem SettlesTo.foldlM {arguments : List String} (h : SettlesTo s t)
    (ht : arguments.foldlM Scan.step t = .ok t') :
    ∃ s', arguments.foldlM Scan.step s = .ok s' ∧ SettlesTo s' t' := by
  induction arguments generalizing s t with
  | nil =>
    obtain rfl := Except.ok.inj ht
    exact ⟨s, rfl, h⟩
  | cons text rest ih =>
    rw [List.foldlM_cons] at ht
    obtain ⟨u, hstep, hrest⟩ := bind_eq_ok_iff.mp ht
    obtain ⟨v, hstep', hsettles⟩ := h.step hstep
    obtain ⟨s', hrest', hsettles'⟩ := ih hsettles hrest
    exact ⟨s', by rw [List.foldlM_cons]; exact bind_eq_ok_iff.mpr ⟨v, hstep', hrest'⟩, hsettles'⟩

end Scan

/-! ### Command lines -/

variable {environment : Option String} {arguments : List String} {o : Options}

theorem parse_eq_ok_iff :
    parse environment arguments = .ok o ↔
      ∃ s t, arguments.foldlM Scan.step Scan.start = .ok s ∧ s.settle = .ok t ∧
        { t.options with logLevel := t.options.logLevel <|> environment } = o := by
  constructor
  · intro h
    obtain ⟨s, hrun, h⟩ := bind_eq_ok_iff.mp h
    obtain ⟨t, hsettle, h⟩ := bind_eq_ok_iff.mp h
    exact ⟨s, t, hrun, hsettle, Except.ok.inj h⟩
  · rintro ⟨s, t, hrun, hsettle, rfl⟩
    exact bind_eq_ok_iff.mpr ⟨s, hrun, bind_eq_ok_iff.mpr ⟨t, hsettle, rfl⟩⟩

/-- What is logged has nothing to do with a switch. -/
theorem Options.turn_logLevel :
    { o.turn switch on with logLevel := (o.turn switch on).logLevel <|> environment } =
      ({ o with logLevel := o.logLevel <|> environment } : Options).turn switch on := by
  cases switch <;> rfl

theorem Options.isOn_logLevel :
    ({ o with logLevel := o.logLevel <|> environment } : Options).isOn switch = o.isOn switch := by
  cases switch <;> rfl

/-- A command line without a switch leaves it off. -/
theorem isOn_of_parse_of_notMem (hargs : switch.argument ∉ arguments)
    (h : parse environment arguments = .ok o) : o.isOn switch = false := by
  obtain ⟨s, t, hrun, hsettle, rfl⟩ := parse_eq_ok_iff.mp h
  rw [Options.isOn_logLevel, Scan.isOn_of_settle hsettle, Scan.isOn_of_foldlM hargs hrun]
  cases switch <;> rfl

/-- With the switch put in front of it, it turns the switch on and sets everything else as
before. -/
theorem parse_cons_argument (hargs : switch.argument ∉ arguments)
    (h : parse environment arguments = .ok o) :
    parse environment (switch.argument :: arguments) = .ok (o.turn switch true) := by
  obtain ⟨s, t, hrun, hsettle, rfl⟩ := parse_eq_ok_iff.mp h
  have hstart : Scan.start.step switch.argument = .ok (Scan.start.turn switch true) :=
    Scan.step_argument_eq_ok_iff.mpr ⟨rfl, Scan.start, rfl, by cases switch <;> rfl, rfl⟩
  refine parse_eq_ok_iff.mpr
    ⟨s.turn switch true, t.turn switch true, ?_, ?_, Options.turn_logLevel⟩
  · rw [List.foldlM_cons]
    refine bind_eq_ok_iff.mpr ⟨_, hstart, ?_⟩
    rw [Scan.foldlM_step_turn hargs, hrun]
    rfl
  · rw [Scan.settle_turn, hsettle]
    rfl

/-- A command line with the switch comes apart: what stands behind the switch reads the same if the
switch is off, and the line comes to that with the switch turned on. -/
theorem exists_parse_erase (hargs : switch.argument ∈ arguments)
    (h : parse environment arguments = .ok o) :
    ∃ o', parse environment (arguments.erase switch.argument) = .ok o' ∧
      o'.isOn switch = false ∧ o = o'.turn switch true := by
  obtain ⟨s, t, hrun, hsettle, rfl⟩ := parse_eq_ok_iff.mp h
  obtain ⟨before, behind, hbefore, heq, herase⟩ := List.exists_erase_eq hargs
  rw [heq, List.foldlM_append] at hrun
  obtain ⟨s₁, hs₁, hrun⟩ := bind_eq_ok_iff.mp hrun
  rw [List.foldlM_cons] at hrun
  obtain ⟨s₂, hs₂, hrun⟩ := bind_eq_ok_iff.mp hrun
  obtain ⟨-, u, hu, hoff, rfl⟩ := Scan.step_argument_eq_ok_iff.mp hs₂
  have hbehind : switch.argument ∉ behind :=
    Scan.argument_notMem_of_isOn Options.isOn_turn hrun
  -- the rest of the line is read from what waited before the switch, which the switch settled
  rw [Scan.foldlM_step_turn hbehind] at hrun
  obtain ⟨s₃, hs₃, rfl⟩ := map_eq_ok_iff.mp hrun
  rw [Scan.settle_turn] at hsettle
  obtain ⟨t₃, ht₃, rfl⟩ := map_eq_ok_iff.mp hsettle
  obtain ⟨s', hs', hsettles⟩ := Scan.SettlesTo.foldlM (.inr hu) hs₃
  refine ⟨_, parse_eq_ok_iff.mpr ⟨s', t₃, ?_, hsettles.settle ht₃, rfl⟩, ?_, ?_⟩
  · rw [herase, List.foldlM_append]
    exact bind_eq_ok_iff.mpr ⟨s₁, hs₁, hs'⟩
  · rw [Options.isOn_logLevel, Scan.isOn_of_settle ht₃, Scan.isOn_of_foldlM hbehind hs₃, hoff]
  · exact Options.turn_logLevel

/-- **A switch is on where its argument is given.** -/
theorem isOn_of_parse (h : parse environment arguments = .ok o) :
    o.isOn switch = true ↔ switch.argument ∈ arguments := by
  by_cases hargs : switch.argument ∈ arguments
  · obtain ⟨o', -, -, rfl⟩ := exists_parse_erase hargs h
    exact iff_of_true Options.isOn_turn hargs
  · rw [isOn_of_parse_of_notMem hargs h]
    exact iff_of_false Bool.false_ne_true hargs

/-- **A command line without a switch it may have** sets the same, with the switch off. -/
theorem parse_erase_argument (h : parse environment arguments = .ok o) :
    parse environment (arguments.erase switch.argument) = .ok (o.turn switch false) := by
  by_cases hargs : switch.argument ∈ arguments
  · obtain ⟨o', herase, hoff, rfl⟩ := exists_parse_erase hargs h
    rw [herase, Options.turn_turn, ← hoff, Options.turn_isOn]
  · rw [List.erase_of_not_mem hargs, h, ← isOn_of_parse_of_notMem hargs h, Options.turn_isOn]

/-- **A command line with a switch it may lack** sets the same, with the switch on. -/
theorem parse_insert_argument (h : parse environment arguments = .ok o) :
    parse environment (arguments.insert switch.argument) = .ok (o.turn switch true) := by
  by_cases hargs : switch.argument ∈ arguments
  · rw [List.insert_of_mem hargs, h, ← (isOn_of_parse h).mpr hargs, Options.turn_isOn]
  · rw [List.insert_of_not_mem hargs]
    exact parse_cons_argument hargs h

end DivisionBenchmark.CommandLine
