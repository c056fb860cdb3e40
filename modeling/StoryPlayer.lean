import StoryPlayer.App.Screening
import StoryPlayer.Dispatcher.Rehearsal
import StoryPlayer.Engine.Rehearsal
import StoryPlayer.Main
import StoryPlayer.Proofs.Script.TagBody
import StoryPlayer.Proofs.Script.Expressible
import StoryPlayer.Proofs.Script.Printer
import StoryPlayer.Proofs.Story.Scene
import StoryPlayer.Proofs.Story.Turns
import StoryPlayer.Proofs.Board
import StoryPlayer.Proofs.Controller.Reading
import StoryPlayer.Proofs.Controller.Propagation
import StoryPlayer.Proofs.Controller.Outline
import StoryPlayer.Proofs.Controller.SingleLoad
import StoryPlayer.Proofs.Controller.OnlyWinner
import StoryPlayer.Proofs.Controller.Life
import StoryPlayer.Proofs.Board.History
import StoryPlayer.Proofs.Story.Gist
import StoryPlayer.Proofs.Controller.Commands
import StoryPlayer.Proofs.Controller.Progress
import StoryPlayer.Proofs.Controller.Courses
import StoryPlayer.Proofs.Dispatcher.Advances
import StoryPlayer.Proofs.Text.Utf8
import StoryPlayer.Proofs.LineMode.Transcript
import StoryPlayer.Proofs.Dispatcher.Bindings
import StoryPlayer.Proofs.Controller.Retry
import StoryPlayer.Proofs.Controller.Service
import StoryPlayer.Proofs.Controller.Serviced
import StoryPlayer.Proofs.Controller.Roll
import StoryPlayer.Proofs.Controller.Attends
import StoryPlayer.Proofs.Controller.AtOnce
import StoryPlayer.Proofs.App.Mounts
import StoryPlayer.Proofs.Script.Listing
import StoryPlayer.Proofs.View
import StoryPlayer.Proofs.App.Redraw
import StoryPlayer.Proofs.App.GivingBack
import StoryPlayer.Proofs.Script.Concatenation
import StoryPlayer.Proofs.Script.Phrase
import StoryPlayer.Proofs.Script.Attributes
import StoryPlayer.Proofs.Script.Words
import StoryPlayer.Proofs.Script.Significant
import StoryPlayer.Proofs.Engine.Beginning
import StoryPlayer.Proofs.Engine.ByteOrderMark
import StoryPlayer.Proofs.Screen.Rows
import StoryPlayer.Proofs.Screen.WordBreaks
import StoryPlayer.Proofs.Screen.Menu
import StoryPlayer.Proofs.Screen.Placement
