/-
The result codes of the stack, `ocstack.c`, and of entity handlers, `oocf_server.c`.
-/
import Mathlib.Tactic.TypeStar

namespace Iochibity.Ocf

/-- `OCStackResult`, the codes that handling a request comes across. -/
inductive OCStackResult
  | ok
  | resourceCreated
  | resourceDeleted
  | continueLater
  | resourceChanged
  | invalidUri
  | invalidQuery
  | invalidParam
  | invalidMethod
  | noMemory
  | commError
  | notImpl
  | noResource
  | resourceError
  | slowResource
  | duplicateRequest
  | invalidOption
  | unauthorizedReq
  | forbiddenReq
  | internalServerError
  | notAcceptable
  | tooLargeReq
  | serviceUnavailable
  | badEndpoint
  | error
  deriving DecidableEq

def ocResultToSuccess : OCStackResult → Bool
  | .ok | .resourceCreated | .resourceDeleted | .continueLater | .resourceChanged
  | .slowResource => true
  | _ => false

inductive OCEntityHandlerResult
  | ok
  | error
  | slow
  | resourceCreated
  | resourceDeleted
  | valid
  | changed
  | content
  | badReq
  | unauthorizedReq
  | badOpt
  | forbidden
  | resourceNotFound
  | methodNotAllowed
  | notAcceptable
  | tooLarge
  | unsupportedMediaType
  | internalServerError
  | badGateway
  | serviceUnavailable
  | retransmitTimeout
  deriving DecidableEq

def entityHandlerCodeToOCStackCode : OCEntityHandlerResult → OCStackResult
  | .ok | .content | .valid => .ok
  | .slow => .slowResource
  | .error => .error
  | .forbidden => .forbiddenReq
  | .internalServerError => .internalServerError
  | .resourceCreated => .resourceCreated
  | .resourceDeleted => .resourceDeleted
  | .changed => .resourceChanged
  | .resourceNotFound => .noResource
  | .badReq => .invalidQuery
  | .unauthorizedReq => .unauthorizedReq
  | .badOpt => .invalidOption
  | .methodNotAllowed => .invalidMethod
  | .notAcceptable => .notAcceptable
  | .tooLarge => .tooLargeReq
  | .serviceUnavailable => .serviceUnavailable
  | .retransmitTimeout => .commError
  | .unsupportedMediaType | .badGateway => .error

end Iochibity.Ocf
