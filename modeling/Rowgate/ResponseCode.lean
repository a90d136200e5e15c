/-
  The codes that answers carry to callers.
-/
namespace Rowgate

inductive ResponseCode where
  | success
  | paramsError
  | saveError
  | removeError
  | readError
  | unAuthorized
  | tokenExpired
  | insertError
  | updateError
  | deleteError
deriving DecidableEq

namespace ResponseCode

def name : ResponseCode → String
  | success => "success"
  | paramsError => "paramsError"
  | saveError => "saveError"
  | removeError => "removeError"
  | readError => "readError"
  | unAuthorized => "unAuthorized"
  | tokenExpired => "tokenExpired"
  | insertError => "insertError"
  | updateError => "updateError"
  | deleteError => "deleteError"

/-- All codes by name. -/
def byName : List (String × ResponseCode) :=
  [success, paramsError, saveError, removeError, readError, unAuthorized, tokenExpired,
    insertError, updateError, deleteError].map fun c => (c.name, c)

end ResponseCode

end Rowgate
