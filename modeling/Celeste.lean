import Celeste.LateAnswers
import Celeste.CouponApps
import Celeste.GiftCoupon
import Celeste.DateKey
import Celeste.Login
import Celeste.MainScreens
import Celeste.SelectionRuns
import Celeste.Fades
import Celeste.PressFeedback
import Celeste.Button
import Celeste.FSCalendarCaches
import Celeste.CalendarTaps
import Celeste.Launch
import Celeste.FSCalendarCollectionViewLayout
import Celeste.CalendarTouches
import Celeste.Colors
