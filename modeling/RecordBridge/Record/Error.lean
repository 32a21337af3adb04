import RecordBridge.Text.Quoted

namespace RecordBridge

inductive HostError where
  | underrun (needed remaining : Nat)
  | unknownAttributeTag (tag : UInt32)
  | unknownPayload (key : String)
  | invalidName
  deriving DecidableEq, Repr

namespace HostError

def message : HostError → String
  | .underrun needed remaining => s!"Buffer underrun: needed {needed} bytes, {remaining} remaining"
  | .unknownAttributeTag tag => s!"Unknown attribute tag: {tag}"
  | .unknownPayload key => "No payload factory registered for key `" ++ key ++ "`"
  | .invalidName => "Attribute name is not valid UTF-8"

-- The cause by name.
def cause : HostError → String
  | .underrun _ _ => "Underrun"
  | .unknownAttributeTag _ => "UnknownAttributeTag"
  | .unknownPayload _ => "UnknownPayload"
  | .invalidName => "InvalidName"

def shown : HostError → String
  | .underrun needed remaining =>
    s!"Underrun \x7b needed: {needed}, remaining: {remaining} \x7d"
  | .unknownAttributeTag tag => s!"UnknownAttributeTag({tag})"
  | .unknownPayload key => "UnknownPayload(" ++ Quoted.text key ++ ")"
  | .invalidName => "InvalidName"

end HostError
end RecordBridge
