import TreeDump.CommandLine.FileTree
import TreeDump.Dump.Call
import TreeDump.Main
import TreeDump.Node.Build
import TreeDump.Node.Equality
import TreeDump.Program.Compiler
import TreeDump.Program.Print
import TreeDump.Proofs.Dump.ConstantTable
import TreeDump.Proofs.Dump.DoubleKeys
import TreeDump.Proofs.Dump.EqualTrees
import TreeDump.Proofs.Dump.Growth
import TreeDump.Proofs.Dump.Headings
import TreeDump.Proofs.Dump.LastSettings
import TreeDump.Proofs.Dump.Limited
import TreeDump.Proofs.Dump.SameDump
import TreeDump.Proofs.Dump.Sections
import TreeDump.Proofs.Dump.StringConstants
import TreeDump.Proofs.Dump.TableEntries
import TreeDump.Proofs.Number.ShortestDecimal
import TreeDump.Proofs.Schema.Registry
import TreeDump.Proofs.Schema.RowNotation
import TreeDump.Proofs.Schema.RowTables
import TreeDump.Proofs.Source.CompilerSource
import TreeDump.Proofs.Source.Imports
import TreeDump.Proofs.Source.SchemaReader
import TreeDump.Schema.Registration
