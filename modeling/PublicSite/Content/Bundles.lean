import PublicSite.Content.Basic

/-!
# The bundles of the site

The texts that the site is delivered with, one bundle for each locale.
-/

namespace PublicSite.Content

/-- The texts in English. -/
def english : Content where
  overview.title := "Evolve Sprouts"
  overview.description :=
    "Practical training for families and domestic helpers in Hong Kong, from the My Best Auntie course to parenting workshops."
  overview.direction := .leftToRight
  navbar.brand := "Evolve Sprouts"
  navbar.menuItems := [
    ⟨"Home", "/"⟩,
    ⟨"About Us", "/about-us"⟩,
    ⟨"My Best Auntie", "/services/my-best-auntie-training-course"⟩,
    ⟨"Events", "/events"⟩,
    ⟨"Contact Us", "/contact-us"⟩]
  navbar.bookNow := ⟨"Book Now", "/services/my-best-auntie-training-course"⟩
  footer.quickLinks.title := "Quick Links"
  footer.quickLinks.items := [
    ⟨"Home", "/"⟩,
    ⟨"Events", "/events"⟩,
    ⟨"Free Resources", "#resources"⟩]
  footer.services.title := "Services"
  footer.services.items := [
    ⟨"My Best Auntie Training Course", "/services/my-best-auntie-training-course"⟩,
    ⟨"Workshops", "/services/workshops"⟩]
  footer.aboutUs.title := "About Us"
  footer.aboutUs.items := [
    ⟨"Our Story", "/about-us"⟩,
    ⟨"Contact Us", "/contact-us"⟩,
    ⟨"Privacy Policy", "/privacy"⟩,
    ⟨"Terms of Service", "/terms"⟩]
  footer.connectOn.title := "Connect On"
  footer.connectOn.items := [
    ⟨"Instagram", "https://www.instagram.com/evolvesprouts"⟩,
    ⟨"LinkedIn", "https://www.linkedin.com/company/evolvesprouts"⟩]
  footer.copyright := "© Evolve Sprouts. All rights reserved."
  pages.home.title := "Evolve Sprouts | Montessori-inspired care at home"
  pages.home.description :=
    "Courses, workshops and free resources that help families and helpers raise confident, independent children."
  pages.aboutUs.title := "About Us"
  pages.aboutUs.description :=
    "Meet the educators behind Evolve Sprouts and the approach we bring to Hong Kong homes."
  pages.contactUs.title := "Contact Us"
  pages.contactUs.description :=
    "Questions about our courses or workshops? Send us a message and we will get back to you."
  pages.events.title := "Events"
  pages.events.description :=
    "Upcoming talks, open days and workshops for parents and domestic helpers."
  pages.trainingCourse.title := "My Best Auntie Training Course"
  pages.trainingCourse.description :=
    "A hands-on course that gives domestic helpers the skills to support a child's growth every day."
  pages.privacy.title := "Privacy Policy"
  pages.privacy.description := "How Evolve Sprouts collects and uses personal data."
  pages.workshops.title := "Workshops"
  pages.workshops.description := "Short, practical workshops for parents and caregivers."
  pages.terms.title := "Terms of Service"
  pages.terms.description :=
    "The terms that apply when you use the Evolve Sprouts website and services."
  search.organizationDescription :=
    "Evolve Sprouts trains families and domestic helpers in Hong Kong to support children's independence at home."
  search.keywords := ["domestic helper training", "Montessori", "Hong Kong", "parenting workshops"]
  noscript.message := "Some parts of this site need JavaScript. Please enable it to book a course."
  notFound.title := "Page not found"
  notFound.description := "The page you are looking for does not exist or has moved."
  notFound.backHomeLabel := "Back to home"

/-- The texts in simplified Chinese. -/
def simplifiedChinese : Content where
  overview.title := "Evolve Sprouts"
  overview.description := "为香港家庭与家务助理提供实用培训，从 My Best Auntie 课程到亲子工作坊。"
  overview.direction := .leftToRight
  navbar.brand := "Evolve Sprouts"
  navbar.menuItems := [
    ⟨"首页", "/"⟩,
    ⟨"关于我们", "/about-us"⟩,
    ⟨"My Best Auntie", "/services/my-best-auntie-training-course"⟩,
    ⟨"活动", "/events"⟩,
    ⟨"联系我们", "/contact-us"⟩]
  navbar.bookNow := ⟨"立即预约", "/services/my-best-auntie-training-course"⟩
  footer.quickLinks.title := "快速链接"
  footer.quickLinks.items := [
    ⟨"首页", "/"⟩,
    ⟨"活动", "/events"⟩,
    ⟨"免费资源", "#resources"⟩]
  footer.services.title := "服务"
  footer.services.items := [
    ⟨"My Best Auntie 培训课程", "/services/my-best-auntie-training-course"⟩,
    ⟨"工作坊", "/services/workshops"⟩]
  footer.aboutUs.title := "关于我们"
  footer.aboutUs.items := [
    ⟨"我们的故事", "/about-us"⟩,
    ⟨"联系我们", "/contact-us"⟩,
    ⟨"隐私政策", "/privacy"⟩,
    ⟨"服务条款", "/terms"⟩]
  footer.connectOn.title := "关注我们"
  footer.connectOn.items := [
    ⟨"Instagram", "https://www.instagram.com/evolvesprouts"⟩,
    ⟨"LinkedIn", "https://www.linkedin.com/company/evolvesprouts"⟩]
  footer.copyright := "© Evolve Sprouts 版权所有。"
  pages.home.title := "Evolve Sprouts | 在家中实践蒙特梭利理念"
  pages.home.description := "课程、工作坊与免费资源，帮助家庭与家务助理培养自信独立的孩子。"
  pages.aboutUs.title := "关于我们"
  pages.aboutUs.description := "认识 Evolve Sprouts 背后的导师，以及我们为香港家庭带来的方法。"
  pages.contactUs.title := "联系我们"
  pages.contactUs.description := "对课程或工作坊有疑问？给我们留言，我们会尽快回复。"
  pages.events.title := "活动"
  pages.events.description := "为家长与家务助理而设的讲座、开放日与工作坊。"
  pages.trainingCourse.title := "My Best Auntie 培训课程"
  pages.trainingCourse.description := "实践型课程，让家务助理掌握日常支持孩子成长的技巧。"
  pages.privacy.title := "隐私政策"
  pages.privacy.description := "Evolve Sprouts 如何收集及使用个人资料。"
  pages.workshops.title := "工作坊"
  pages.workshops.description := "为家长与照顾者而设的短期实用工作坊。"
  pages.terms.title := "服务条款"
  pages.terms.description := "使用 Evolve Sprouts 网站及服务时适用的条款。"
  search.organizationDescription := "Evolve Sprouts 为香港家庭与家务助理提供培训，在家中支持孩子独立成长。"
  search.keywords := ["家务助理培训", "蒙特梭利", "香港", "亲子工作坊"]
  noscript.message := "本网站部分功能需要 JavaScript，请启用后再预约课程。"
  notFound.title := "找不到页面"
  notFound.description := "您要找的页面不存在或已移动。"
  notFound.backHomeLabel := "返回首页"

/-- The texts in traditional Chinese. -/
def traditionalChinese : Content where
  overview.title := "Evolve Sprouts"
  overview.description := "為香港家庭與家務助理提供實用培訓，從 My Best Auntie 課程到親子工作坊。"
  overview.direction := .leftToRight
  navbar.brand := "Evolve Sprouts"
  navbar.menuItems := [
    ⟨"主頁", "/"⟩,
    ⟨"關於我們", "/about-us"⟩,
    ⟨"My Best Auntie", "/services/my-best-auntie-training-course"⟩,
    ⟨"活動", "/events"⟩,
    ⟨"聯絡我們", "/contact-us"⟩]
  navbar.bookNow := ⟨"立即預約", "/services/my-best-auntie-training-course"⟩
  footer.quickLinks.title := "快速連結"
  footer.quickLinks.items := [
    ⟨"主頁", "/"⟩,
    ⟨"活動", "/events"⟩,
    ⟨"免費資源", "#resources"⟩]
  footer.services.title := "服務"
  footer.services.items := [
    ⟨"My Best Auntie 培訓課程", "/services/my-best-auntie-training-course"⟩,
    ⟨"工作坊", "/services/workshops"⟩]
  footer.aboutUs.title := "關於我們"
  footer.aboutUs.items := [
    ⟨"我們的故事", "/about-us"⟩,
    ⟨"聯絡我們", "/contact-us"⟩,
    ⟨"私隱政策", "/privacy"⟩,
    ⟨"服務條款", "/terms"⟩]
  footer.connectOn.title := "關注我們"
  footer.connectOn.items := [
    ⟨"Instagram", "https://www.instagram.com/evolvesprouts"⟩,
    ⟨"LinkedIn", "https://www.linkedin.com/company/evolvesprouts"⟩]
  footer.copyright := "© Evolve Sprouts 版權所有。"
  pages.home.title := "Evolve Sprouts | 在家中實踐蒙特梭利理念"
  pages.home.description := "課程、工作坊與免費資源，幫助家庭與家務助理培養自信獨立的孩子。"
  pages.aboutUs.title := "關於我們"
  pages.aboutUs.description := "認識 Evolve Sprouts 背後的導師，以及我們為香港家庭帶來的方法。"
  pages.contactUs.title := "聯絡我們"
  pages.contactUs.description := "對課程或工作坊有疑問？給我們留言，我們會盡快回覆。"
  pages.events.title := "活動"
  pages.events.description := "為家長與家務助理而設的講座、開放日與工作坊。"
  pages.trainingCourse.title := "My Best Auntie 培訓課程"
  pages.trainingCourse.description := "實踐型課程，讓家務助理掌握日常支援孩子成長的技巧。"
  pages.privacy.title := "私隱政策"
  pages.privacy.description := "Evolve Sprouts 如何收集及使用個人資料。"
  pages.workshops.title := "工作坊"
  pages.workshops.description := "為家長與照顧者而設的短期實用工作坊。"
  pages.terms.title := "服務條款"
  pages.terms.description := "使用 Evolve Sprouts 網站及服務時適用的條款。"
  search.organizationDescription := "Evolve Sprouts 為香港家庭與家務助理提供培訓，在家中支援孩子獨立成長。"
  search.keywords := ["家務助理培訓", "蒙特梭利", "香港", "親子工作坊"]
  noscript.message := "本網站部分功能需要 JavaScript，請啟用後再預約課程。"
  notFound.title := "找不到頁面"
  notFound.description := "您要找的頁面不存在或已移動。"
  notFound.backHomeLabel := "返回主頁"

end PublicSite.Content
