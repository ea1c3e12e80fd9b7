import DeviceAndDisplay.Model.DeviceDiagnostics.Configuration

/-! # Extracting the parameters of a rendered list

The loop stands at the closing brace of one parameter when it looks for the next one. -/

namespace DeviceAndDisplay.DeviceDiagnostics

open Helpers Storage

/-- `{"name":"n","value":v` -/
def ParamList.opened (param : ParamList) : Text :=
  '{' :: nameMark ++ '"' :: param.name ++ '"' :: ',' :: valueMark ++ param.value

def ParamList.rendered (param : ParamList) : Text := param.opened ++ ['}']

/-- `{"paramList":[`. -/
def paramListMark : Text :=
  ['{', '"', 'p', 'a', 'r', 'a', 'm', 'L', 'i', 's', 't', '"', ':', '[']

/-- `{"paramList":[{"name":"n1","value":v1},...]}`. -/
def rendered (params : List ParamList) : Text :=
  paramListMark ++ [','].intercalate (params.map ParamList.rendered) ++ [']', '}']

/-- What follows a parameter. -/
def following : List ParamList → Text
  | [] => [']', '}']
  | param :: params => ',' :: param.opened ++ '}' :: following params

theorem intercalate_rendered (param : ParamList) (params : List ParamList) :
    [','].intercalate ((param :: params).map ParamList.rendered) ++ [']', '}'] =
      param.opened ++ '}' :: following params := by
  induction params generalizing param with
  | nil => simp [ParamList.rendered, following]
  | cons next params ih =>
      rw [List.map_cons, List.map_cons, List.intercalate_cons_cons, ← List.map_cons,
        List.append_assoc, ih next]
      simp [ParamList.rendered, following]

theorem rendered_cons (param : ParamList) (params : List ParamList) :
    rendered (param :: params) = paramListMark ++ (param.opened ++ '}' :: following params) := by
  rw [rendered, List.append_assoc, intercalate_rendered]

/-- The value mark is found behind the quote and the comma. -/
theorem find_valueMark (text : Text) :
    find valueMark ('"' :: ',' :: (valueMark ++ text)) = some 2 := by
  simp [find, valueMark]

/-- The round that takes a parameter. The gap before the parameter has nothing that looks like the
name mark. -/
theorem round_opened {param : ParamList} (hname : '"' ∉ param.name) (hvalue : '}' ∉ param.value)
    {response front gap rest : Text}
    (hgap : ∀ text, find nameMark (gap ++ (nameMark ++ text)) = some gap.length)
    (hresponse : response = front ++ (gap ++ (nameMark ++ '"' :: (param.name ++ '"' :: ',' ::
      (valueMark ++ (param.value ++ '}' :: rest)))))) :
    round response (some front.length) = .next param
      (some (gap.length + front.length + 8 + param.name.length + 10 + param.value.length)) := by
  let start := gap.length + front.length
  have hmark : findFrom nameMark response (some front.length) = some start := by
    rw [findFrom_append hresponse rfl, hgap]
    rfl
  have hopening : findFrom ['"'] response (some (start + 6)) = some (start + 7) := by
    have htext : response = (front ++ gap ++ ['"', 'n', 'a', 'm', 'e', '"']) ++ ([':'] ++ '"' ::
        (param.name ++ '"' :: ',' :: (valueMark ++ (param.value ++ '}' :: rest)))) := by
      rw [hresponse]
      simp [nameMark]
    exact findFrom_separator htext (by simp [start]; omega) (by decide)
  have hquoted : response = (front ++ gap ++ nameMark ++ ['"']) ++ (param.name ++ '"' :: ',' ::
      (valueMark ++ (param.value ++ '}' :: rest))) := by
    rw [hresponse]
    simp
  have hquotedLength : (front ++ gap ++ nameMark ++ ['"']).length = start + 8 := by
    simp [nameMark, start]
    omega
  have hclosing : findFrom ['"'] response (some (start + 8)) =
      some (start + 8 + param.name.length) :=
    findFrom_separator hquoted hquotedLength hname
  have hnameText : substr response (start + 8) (some (start + 8 + param.name.length)) =
      some param.name :=
    substr_append hquoted hquotedLength rfl
  have hmarked : findFrom valueMark response (some (start + 8 + param.name.length)) =
      some (start + 8 + param.name.length + 2) := by
    have htext : response = (front ++ gap ++ nameMark ++ ['"'] ++ param.name) ++ ('"' :: ',' ::
        (valueMark ++ (param.value ++ '}' :: rest))) := by
      rw [hquoted]
      simp
    rw [findFrom_append htext (by rw [List.length_append, hquotedLength]), find_valueMark]
    exact congrArg some (Nat.add_comm _ _)
  have hvalued : response = (front ++ gap ++ nameMark ++ ['"'] ++ param.name ++ '"' :: ',' ::
      valueMark) ++ (param.value ++ '}' :: rest) := by
    rw [hquoted]
    simp
  have hvaluedLength : (front ++ gap ++ nameMark ++ ['"'] ++ param.name ++ '"' :: ',' ::
      valueMark).length = start + 8 + param.name.length + 10 := by
    rw [List.length_append, List.length_append, hquotedLength]
    rfl
  have hbrace : findFrom ['}'] response (some (start + 8 + param.name.length + 10)) =
      some (start + 8 + param.name.length + 10 + param.value.length) :=
    findFrom_separator hvalued hvaluedLength hvalue
  have hvalueText : substr response (start + 8 + param.name.length + 10)
      (some (start + 8 + param.name.length + 10 + param.value.length)) = some param.value :=
    substr_append hvalued hvaluedLength rfl
  simp only [round, hmark, hopening, advance, hclosing, hnameText, hmarked, hbrace, hvalueText]
  rfl

/-- The gaps before the first parameter and before each later one. -/
theorem find_nameMark_first (text : Text) :
    find nameMark (paramListMark ++ ['{'] ++ (nameMark ++ text)) = some 15 := by
  simp [find, nameMark, paramListMark]

theorem find_nameMark_later (text : Text) :
    find nameMark (['}', ',', '{'] ++ (nameMark ++ text)) = some 3 := by
  simp [find, nameMark]

/-- From the closing brace of a parameter on, the loop takes the parameters that follow. -/
theorem extract_following {params : List ParamList} (hname : ∀ param ∈ params, '"' ∉ param.name)
    (hvalue : ∀ param ∈ params, '}' ∉ param.value) (front : Text) (done : List ParamList) :
    extract (front ++ '}' :: following params) done (params.length + 1) (some front.length) =
      some (.extracted (done ++ params)) := by
  induction params generalizing front done with
  | nil =>
      have hnone : findFrom nameMark (front ++ '}' :: following []) (some front.length) = none := by
        rw [findFrom_append rfl rfl]
        rfl
      simp [extract, round, hnone]
  | cons param params ih =>
      let stop := 3 + front.length + 8 + param.name.length + 10 + param.value.length
      have hround : round (front ++ '}' :: following (param :: params)) (some front.length) =
          .next param (some stop) := by
        refine round_opened (hname param List.mem_cons_self) (hvalue param List.mem_cons_self)
          find_nameMark_later (?_ : _ = front ++ (['}', ',', '{'] ++ (nameMark ++ '"' ::
            (param.name ++ '"' :: ',' :: (valueMark ++ (param.value ++ '}' :: following params))))))
        simp [following, ParamList.opened]
      have htext : front ++ '}' :: following (param :: params) =
          (front ++ '}' :: ',' :: param.opened) ++ '}' :: following params := by
        simp [following]
      have hstop : (front ++ '}' :: ',' :: param.opened).length = stop := by
        simp only [List.length_append, List.length_cons, ParamList.opened, nameMark, valueMark,
          List.length_nil, stop]
        omega
      have hrest := ih (fun p hp => hname p (List.mem_cons_of_mem param hp))
        (fun p hp => hvalue p (List.mem_cons_of_mem param hp))
        (front ++ '}' :: ',' :: param.opened) (done ++ [param])
      rw [hstop, ← htext] at hrest
      rw [List.length_cons, extract]
      simp only [hround, hrest, List.append_assoc, List.singleton_append]

/-- Names without quotes and values without closing braces are extracted as they were rendered. -/
theorem extract_rendered {params : List ParamList} (hname : ∀ param ∈ params, '"' ∉ param.name)
    (hvalue : ∀ param ∈ params, '}' ∉ param.value) :
    extract (rendered params) [] (params.length + 1) (some 0) = some (.extracted params) := by
  cases params with
  | nil => decide
  | cons param params =>
      let stop := 15 + 0 + 8 + param.name.length + 10 + param.value.length
      have hround : round (rendered (param :: params)) (some 0) = .next param (some stop) := by
        refine round_opened (List.forall_mem_cons.mp hname).1 (List.forall_mem_cons.mp hvalue).1
          find_nameMark_first (?_ : _ = [] ++ (paramListMark ++ ['{'] ++ (nameMark ++ '"' ::
            (param.name ++ '"' :: ',' :: (valueMark ++ (param.value ++ '}' :: following params))))))
        simp [rendered_cons, ParamList.opened]
      have htext : rendered (param :: params) =
          (paramListMark ++ param.opened) ++ '}' :: following params := by
        rw [rendered_cons, List.append_assoc]
      have hstop : (paramListMark ++ param.opened).length = stop := by
        simp only [List.length_append, List.length_cons, ParamList.opened, nameMark, valueMark,
          paramListMark, List.length_nil, stop]
        omega
      have hrest := extract_following (List.forall_mem_cons.mp hname).2
        (List.forall_mem_cons.mp hvalue).2 (paramListMark ++ param.opened) [param]
      rw [hstop, ← htext] at hrest
      rw [List.length_cons, extract]
      simp only [hround, List.nil_append, hrest, List.singleton_append]

/-- Two parameters, the second with a name mark in its value. -/
theorem extract_rendered_two :
    extract (rendered [⟨['a'], ['1']⟩, ⟨['b'], nameMark⟩]) [] 3 (some 0) =
      some (.extracted [⟨['a'], ['1']⟩, ⟨['b'], nameMark⟩]) :=
  extract_rendered (by decide) (by decide)

end DeviceAndDisplay.DeviceDiagnostics
