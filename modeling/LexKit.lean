import LexKit.CommandLine.Run
import LexKit.Diagnostic
import LexKit.Log
import LexKit.Main
import LexKit.Primitive
import LexKit.Proofs.CommandLine.Output
import LexKit.Proofs.Delimiters.Codec
import LexKit.Proofs.Primitive.Anchoring
import LexKit.Proofs.Primitive.Contract
import LexKit.Proofs.Primitive.Literals
import LexKit.Proofs.Scan.Again
import LexKit.Proofs.Scan.Course
import LexKit.Proofs.Scan.EndCheck
import LexKit.Proofs.Scan.Errors
import LexKit.Proofs.Scan.Making
import LexKit.Proofs.Scan.Shift
import LexKit.Proofs.Scan.Tokens
import LexKit.Proofs.Sexpr.Files
import LexKit.Proofs.Sexpr.Lexer
import LexKit.Proofs.Sexpr.Order
import LexKit.Proofs.Sexpr.Printing
import LexKit.Proofs.Sexpr.Recovery
import LexKit.Proofs.Sexpr.RoundTrip
import LexKit.Proofs.Sexpr.Stability
import LexKit.Proofs.Sexpr.Styles
import LexKit.Proofs.TextStream.Arithmetic
import LexKit.Scripted
import LexKit.Session
import LexKit.Token
