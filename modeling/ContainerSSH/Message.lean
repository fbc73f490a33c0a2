/-
The error values of the `message` package.
-/
import Mathlib.Tactic.Common

namespace ContainerSSH

inductive RejectionReason where
  | prohibited
  | connectionFailed
  | unknownChannelType
  | resourceShortage
deriving DecidableEq

inductive GoError where
  | plain (text : String)
  | message (code userMessage explanation : String) (labels : List (String × String))
  | wrapping (cause : GoError) (code userMessage explanation : String)
      (labels : List (String × String))
  | rejection (reason : RejectionReason) (code userMessage explanation : String)
      (labels : List (String × String))
deriving DecidableEq

def GoError.error : GoError → String
  | .plain text => text
  | .message _ _ explanation _ => explanation
  | .wrapping _ _ _ explanation _ => explanation
  | .rejection _ _ _ explanation _ => explanation

def userMessage (code user explanation : String) : GoError := .message code user explanation []

def newChannelRejection (reason : RejectionReason) (code user explanation : String) : GoError :=
  .rejection reason code user explanation []

def newMessage (code explanation : String) : GoError :=
  userMessage code "Internal Error" explanation

def wrapUser (cause : GoError) (code user explanation : String) : GoError :=
  .wrapping cause code user (explanation ++ " (" ++ cause.error ++ ")") []

def wrapMessage (cause : GoError) (code explanation : String) : GoError :=
  wrapUser cause code "Internal Error" explanation

def setLabel (name value : String) (labels : List (String × String)) : List (String × String) :=
  (name, value) :: labels.filter (fun entry => entry.1 ≠ name)

def GoError.label (name value : String) : GoError → GoError
  | .plain text => .plain text
  | .message code user explanation labels =>
    .message code user explanation (setLabel name value labels)
  | .wrapping cause code user explanation labels =>
    .wrapping cause code user explanation (setLabel name value labels)
  | .rejection reason code user explanation labels =>
    .rejection reason code user explanation (setLabel name value labels)

end ContainerSSH
