import JsonPath.Json.Reader

/-!
# Variable bindings

A binding `NAME=JSON` gives a variable its value.  What is not JSON is taken as
a string as it stands.
-/

namespace JsonPath

/-- The name and the value of a binding; none without an equals sign or without
a name. -/
def readBinding? (binding : List Char) : Option (String × Value) :=
  let name := trimBlanks (binding.takeWhile (· != '='))
  match binding.dropWhile (· != '=') with
  | [] => none
  | _ :: text =>
      if name.isEmpty then
        none
      else
        some (String.ofList name, (Json.read? text).getD (.string (String.ofList text)))

end JsonPath
