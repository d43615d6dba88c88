/-! The script of a survival page behind its data, in the order of its parts. -/

namespace Minigame.Page

/-- The canvas follows the size and the density of the screen. -/
def canvasScript : List String :=
  ["",
   "  var canvas = document.getElementById('game');",
   "  var ctx = canvas.getContext('2d');",
   "  function resizeCanvas()\x7b",
   "    var scale = cfg.hidpi ? (window.devicePixelRatio || 1) : 1;",
   "    canvas.style.width = cfg.cssW + 'px';",
   "    canvas.style.height = cfg.cssH + 'px';",
   "    canvas.width = Math.floor(cfg.cssW * scale);",
   "    canvas.height = Math.floor(cfg.cssH * scale);",
   "    ctx.setTransform(scale, 0, 0, scale, 0, 0);",
   "  \x7d",
   "  resizeCanvas();",
   "  addEventListener('resize', resizeCanvas);",
   ""]

/-- The elements that show the running game. -/
def elementScript : List String :=
  ["  var hudTime = document.getElementById('hud-time');",
   "  var hudCount = document.getElementById('hud-count');",
   "  var hudSpawn = document.getElementById('hud-spawn');",
   "  var bestEl = document.getElementById('best-time');",
   "  var overlay = document.getElementById('overlay');",
   "  var btnStart = document.getElementById('btn-start');",
   "  var btnPause = document.getElementById('btn-pause');",
   "  var btnSound = document.getElementById('btn-sound');",
   "",
   "  function fmt(ms)\x7b return (ms / 1000).toFixed(2) + 's'; \x7d",
   ""]

/-- The best time is kept in the storage of the browser. -/
def bestTimeScript : List String :=
  ["  function readBest()\x7b",
   "    try \x7b return +(localStorage.getItem(cfg.bestKey) || 0); \x7d catch (e) \x7b return 0; \x7d",
   "  \x7d",
   "  // Keeps the best elapsed time in local storage; returns true on a new record.",
   "  window.recordIfBetter = function(ms)\x7b",
   "    if (!(ms > readBest())) return false;",
   "    try \x7b localStorage.setItem(cfg.bestKey, String(ms)); \x7d catch (e) \x7b\x7d",
   "    bestEl.textContent = fmt(ms);",
   "    return true;",
   "  \x7d;",
   "  bestEl.textContent = fmt(readBest());",
   ""]

/-- A short falling tone for a pop. -/
def soundScript : List String :=
  ["  var audioCtx = null, muted = !cfg.sound;",
   "  function soundLabel()\x7b return muted ? 'Sound: Off' : 'Sound: On'; \x7d",
   "  btnSound.addEventListener('click', function()\x7b",
   "    muted = !muted;",
   "    btnSound.textContent = soundLabel();",
   "  \x7d);",
   "  function popSound()\x7b",
   "    if (muted) return;",
   "    try \x7b",
   "      audioCtx = audioCtx || new (window.AudioContext || window.webkitAudioContext)();",
   "      var now = audioCtx.currentTime;",
   "      var o = audioCtx.createOscillator();",
   "      var g = audioCtx.createGain();",
   "      o.type = 'triangle';",
   "      o.frequency.setValueAtTime(600, now);",
   "      o.frequency.exponentialRampToValueAtTime(80, now + 0.08);",
   "      g.gain.setValueAtTime(0.2, now);",
   "      g.gain.exponentialRampToValueAtTime(0.0001, now + 0.12);",
   "      o.connect(g); g.connect(audioCtx.destination);",
   "      o.start(); o.stop(now + 0.13);",
   "    \x7d catch (e) \x7b\x7d",
   "  \x7d",
   ""]

/-- The colours of the objects of each skin. -/
def paletteScript : List String :=
  ["  var PALETTES = \x7b",
   "    bubble: ['#A7F3D0','#93C5FD','#FDE68A','#FCA5A5','#C4B5FD','#FBCFE8','#99F6E4','#BFDBFE'],",
   "    balloon: ['#EF4444','#F59E0B','#10B981','#3B82F6','#8B5CF6','#EC4899','#F97316','#14B8A6'],",
   "    chicken: ['#FFFFFF','#FEF3C7','#FDE68A','#FCD34D','#F5F5F4','#FFEDD5','#FEF9C3','#E7E5E4'],",
   "    slime: ['#4ADE80','#22C55E','#A3E635','#86EFAC','#34D399','#BEF264','#6EE7B7','#16A34A'],",
   "    asteroid: ['#9CA3AF','#6B7280','#A8A29E','#78716C','#D6D3D1','#71717A','#A1A1AA','#57534E']",
   "  \x7d;",
   "  var palette = PALETTES[cfg.skin] || PALETTES.bubble;",
   ""]

/-- The state of the game. -/
def stateScript : List String :=
  ["  // idle -> running <-> paused; running -> ended -> running (replay)",
   "  var state = 'idle';",
   "  var elapsed = 0, lastTs = 0, popped = 0;",
   "  var orbs = [], windowIndex = 0, spawnedInWindow = 0;",
   "  var CATCH_UP_CAP = 50, MAX_FRAME_MS = 66, POP_MS = 160;",
   ""]

/-- A new object at a random place, with a random colour and movement. -/
def spawnScript : List String :=
  ["  function rand(min, max)\x7b return Math.random() * (max - min) + min; \x7d",
   "  function spawnOne()\x7b",
   "    var r = rand(14, 48);",
   "    var shape = [];",
   "    for (var i = 0; i < 9; i++) shape.push(rand(0.75, 1.1));",
   "    orbs.push(\x7b",
   "      x: rand(r, Math.max(r + 1, cfg.cssW - r)),",
   "      y: rand(r, Math.max(r + 1, cfg.cssH - r)),",
   "      r: r,",
   "      color: palette[(Math.random() * palette.length) | 0],",
   "      dir: Math.random() * Math.PI * 2,",
   "      speed: rand(10, 40),",
   "      wobbleAmp: rand(0.5, 2.2),",
   "      wobbleFreq: rand(1.0, 2.4),",
   "      phase: Math.random() * Math.PI * 2,",
   "      shape: shape,",
   "      popT: 0",
   "    \x7d);",
   "  \x7d",
   ""]

/-- The targets of the windows of the schedule, and the rate as it is shown. -/
def scheduleScript : List String :=
  ["  function windowTarget(index)\x7b",
   "    if (cfg.mode === 'linear') return Math.max(0, cfg.addPerInterval | 0);",
   "    return Math.pow(2, index);",
   "  \x7d",
   "  function rateLabel(index)\x7b",
   "    var secs = cfg.intervalMs / 1000;",
   "    return cfg.mode === 'linear'",
   "      ? '+' + windowTarget(index) + '/' + secs + 's'",
   "      : windowTarget(index) + '/' + secs + 's';",
   "  \x7d",
   ""]

/-- One frame: objects spawn, move, bounce off the edges and vanish when popped. -/
def updateScript : List String :=
  ["  function update(dt)\x7b",
   "    var index = Math.floor(elapsed / cfg.intervalMs);",
   "    if (index !== windowIndex) \x7b windowIndex = index; spawnedInWindow = 0; \x7d",
   "    var quota = Math.max(0, Math.min(windowTarget(index) - spawnedInWindow, CATCH_UP_CAP));",
   "    if (!cfg.endOnLimit) quota = Math.min(quota, Math.max(0, cfg.limit - orbs.length));",
   "    for (var i = 0; i < quota; i++) spawnOne();",
   "    spawnedInWindow += quota;",
   "    hudSpawn.textContent = rateLabel(index);",
   "",
   "    var secs = dt / 1000;",
   "    for (var j = orbs.length - 1; j >= 0; j--) \x7b",
   "      var b = orbs[j];",
   "      b.x += Math.cos(b.dir) * b.speed * secs;",
   "      b.y += Math.sin(b.dir) * b.speed * secs;",
   "      b.phase += b.wobbleFreq * secs;",
   "      var wobble = Math.sin(b.phase) * b.wobbleAmp;",
   "      b.x += wobble; b.y -= wobble * 0.6;",
   "      if (b.x < b.r) \x7b b.x = b.r; b.dir = Math.PI - b.dir; \x7d",
   "      if (b.x > cfg.cssW - b.r) \x7b b.x = cfg.cssW - b.r; b.dir = Math.PI - b.dir; \x7d",
   "      if (b.y < b.r) \x7b b.y = b.r; b.dir = -b.dir; \x7d",
   "      if (b.y > cfg.cssH - b.r) \x7b b.y = cfg.cssH - b.r; b.dir = -b.dir; \x7d",
   "      if (b.popT > 0) \x7b b.popT += dt; if (b.popT > POP_MS) orbs.splice(j, 1); \x7d",
   "    \x7d",
   "",
   "    if (cfg.endOnLimit && orbs.length >= cfg.limit) endGame();",
   "  \x7d",
   ""]

/-- How the objects of each skin are drawn. -/
def drawScript : List String :=
  ["  function drawBubble(b)\x7b",
   "    var g = ctx.createRadialGradient(-b.r * 0.4, -b.r * 0.4, b.r * 0.2, 0, 0, b.r);",
   "    g.addColorStop(0, '#ffffff');",
   "    g.addColorStop(0.1, '#ffffff80');",
   "    g.addColorStop(0.11, b.color);",
   "    g.addColorStop(1, b.color);",
   "    ctx.fillStyle = g;",
   "    ctx.beginPath(); ctx.arc(0, 0, b.r, 0, Math.PI * 2); ctx.fill();",
   "    ctx.fillStyle = 'rgba(255,255,255,.35)';",
   "    ctx.beginPath(); ctx.ellipse(-b.r * 0.35, -b.r * 0.35, b.r * 0.28, b.r * 0.18, 0, 0, Math.PI * 2); ctx.fill();",
   "  \x7d",
   "  function drawBalloon(b)\x7b",
   "    ctx.strokeStyle = 'rgba(200,200,200,.7)';",
   "    ctx.lineWidth = 1;",
   "    ctx.beginPath(); ctx.moveTo(0, b.r * 1.1); ctx.quadraticCurveTo(b.r * 0.2, b.r * 1.5, 0, b.r * 1.9); ctx.stroke();",
   "    ctx.fillStyle = b.color;",
   "    ctx.beginPath(); ctx.ellipse(0, 0, b.r * 0.85, b.r, 0, 0, Math.PI * 2); ctx.fill();",
   "    ctx.beginPath(); ctx.moveTo(-b.r * 0.12, b.r * 1.12); ctx.lineTo(b.r * 0.12, b.r * 1.12); ctx.lineTo(0, b.r * 0.95); ctx.fill();",
   "    ctx.fillStyle = 'rgba(255,255,255,.4)';",
   "    ctx.beginPath(); ctx.ellipse(-b.r * 0.3, -b.r * 0.4, b.r * 0.15, b.r * 0.25, -0.4, 0, Math.PI * 2); ctx.fill();",
   "  \x7d",
   "  function drawChicken(b)\x7b",
   "    ctx.fillStyle = '#DC2626';",
   "    ctx.beginPath(); ctx.arc(-b.r * 0.15, -b.r * 0.95, b.r * 0.18, 0, Math.PI * 2); ctx.arc(b.r * 0.12, -b.r * 0.98, b.r * 0.16, 0, Math.PI * 2); ctx.fill();",
   "    ctx.fillStyle = b.color;",
   "    ctx.beginPath(); ctx.arc(0, 0, b.r * 0.9, 0, Math.PI * 2); ctx.fill();",
   "    ctx.strokeStyle = 'rgba(0,0,0,.15)'; ctx.lineWidth = 1; ctx.stroke();",
   "    ctx.fillStyle = '#F59E0B';",
   "    ctx.beginPath(); ctx.moveTo(b.r * 0.85, -b.r * 0.1); ctx.lineTo(b.r * 1.25, b.r * 0.02); ctx.lineTo(b.r * 0.85, b.r * 0.15); ctx.fill();",
   "    ctx.fillStyle = '#111827';",
   "    ctx.beginPath(); ctx.arc(b.r * 0.45, -b.r * 0.25, Math.max(1.5, b.r * 0.09), 0, Math.PI * 2); ctx.fill();",
   "    ctx.fillStyle = 'rgba(0,0,0,.08)';",
   "    ctx.beginPath(); ctx.ellipse(-b.r * 0.2, b.r * 0.2, b.r * 0.4, b.r * 0.25, 0.3, 0, Math.PI * 2); ctx.fill();",
   "  \x7d",
   "  function drawSlime(b)\x7b",
   "    var squish = 1 + Math.sin(b.phase * 3) * 0.06;",
   "    ctx.fillStyle = b.color;",
   "    ctx.beginPath();",
   "    ctx.moveTo(-b.r, b.r * 0.5);",
   "    ctx.quadraticCurveTo(-b.r, -b.r * squish, 0, -b.r * squish);",
   "    ctx.quadraticCurveTo(b.r, -b.r * squish, b.r, b.r * 0.5);",
   "    ctx.quadraticCurveTo(0, b.r * 0.8, -b.r, b.r * 0.5);",
   "    ctx.fill();",
   "    ctx.fillStyle = 'rgba(255,255,255,.35)';",
   "    ctx.beginPath(); ctx.ellipse(-b.r * 0.4, -b.r * 0.45, b.r * 0.2, b.r * 0.12, -0.5, 0, Math.PI * 2); ctx.fill();",
   "    ctx.fillStyle = '#052e16';",
   "    ctx.beginPath(); ctx.arc(-b.r * 0.3, 0, b.r * 0.1, 0, Math.PI * 2); ctx.arc(b.r * 0.3, 0, b.r * 0.1, 0, Math.PI * 2); ctx.fill();",
   "  \x7d",
   "  function drawAsteroid(b)\x7b",
   "    var n = b.shape.length;",
   "    ctx.fillStyle = b.color;",
   "    ctx.beginPath();",
   "    for (var i = 0; i < n; i++) \x7b",
   "      var a = b.phase * 0.2 + (i / n) * Math.PI * 2;",
   "      var rr = b.r * b.shape[i];",
   "      if (i === 0) ctx.moveTo(Math.cos(a) * rr, Math.sin(a) * rr);",
   "      else ctx.lineTo(Math.cos(a) * rr, Math.sin(a) * rr);",
   "    \x7d",
   "    ctx.closePath(); ctx.fill();",
   "    ctx.strokeStyle = 'rgba(0,0,0,.35)'; ctx.lineWidth = 1.5; ctx.stroke();",
   "    ctx.fillStyle = 'rgba(0,0,0,.2)';",
   "    ctx.beginPath(); ctx.arc(-b.r * 0.3, -b.r * 0.2, b.r * 0.18, 0, Math.PI * 2); ctx.fill();",
   "    ctx.beginPath(); ctx.arc(b.r * 0.25, b.r * 0.3, b.r * 0.12, 0, Math.PI * 2); ctx.fill();",
   "  \x7d",
   "  var DRAW = \x7b",
   "    bubble: drawBubble, balloon: drawBalloon, chicken: drawChicken,",
   "    slime: drawSlime, asteroid: drawAsteroid",
   "  \x7d;",
   "  var drawOrb = DRAW[cfg.skin] || drawBubble;",
   ""]

/-- All objects drawn, frame by frame. -/
def frameScript : List String :=
  ["  function draw()\x7b",
   "    ctx.clearRect(0, 0, cfg.cssW, cfg.cssH);",
   "    for (var i = 0; i < orbs.length; i++) \x7b",
   "      var b = orbs[i];",
   "      var popping = b.popT > 0;",
   "      ctx.save();",
   "      ctx.globalAlpha = popping ? Math.max(0, 1 - b.popT / POP_MS) : 1;",
   "      ctx.translate(b.x, b.y);",
   "      var s = popping ? 1 + Math.min(0.6, b.popT / 200) : 1;",
   "      ctx.scale(s, s);",
   "      drawOrb(b);",
   "      ctx.restore();",
   "    \x7d",
   "  \x7d",
   "",
   "  function loop(ts)\x7b",
   "    if (state !== 'running') \x7b",
   "      lastTs = ts;",
   "    \x7d else \x7b",
   "      var dt = Math.min(MAX_FRAME_MS, ts - lastTs || 16);",
   "      lastTs = ts;",
   "      elapsed += dt;",
   "      update(dt);",
   "    \x7d",
   "    hudTime.textContent = fmt(elapsed);",
   "    hudCount.textContent = String(orbs.length);",
   "    draw();",
   "    requestAnimationFrame(loop);",
   "  \x7d",
   ""]

/-- The card in front of the stage. -/
def cardScript : List String :=
  ["  function showCard(heading, text, label, onClick)\x7b",
   "    overlay.textContent = '';",
   "    var card = document.createElement('div');",
   "    card.className = 'card';",
   "    var big = document.createElement('p');",
   "    big.className = 'big';",
   "    big.textContent = heading;",
   "    var small = document.createElement('p');",
   "    small.className = 'small';",
   "    small.textContent = text;",
   "    var btn = document.createElement('button');",
   "    btn.className = 'btn';",
   "    btn.type = 'button';",
   "    btn.textContent = label;",
   "    btn.addEventListener('click', onClick);",
   "    card.appendChild(big); card.appendChild(small); card.appendChild(btn);",
   "    overlay.appendChild(card);",
   "    overlay.style.display = 'flex';",
   "  \x7d",
   ""]

/-- Starting, ending and pausing the game. -/
def controlScript : List String :=
  ["  function startGame()\x7b",
   "    orbs.length = 0; windowIndex = 0; spawnedInWindow = 0; popped = 0;",
   "    elapsed = 0; lastTs = performance.now();",
   "    state = 'running';",
   "    overlay.style.display = 'none';",
   "    btnPause.textContent = 'Pause (' + PAUSE_KEY + ')';",
   "  \x7d",
   "  function endGame()\x7b",
   "    if (state !== 'running') return;",
   "    state = 'ended';",
   "    var best = window.recordIfBetter(elapsed);",
   "    showCard(",
   "      best ? 'New Best!' : 'Game Over',",
   "      'Final Time: ' + fmt(elapsed) + ' · ' + NOUN + ' popped: ' + popped,",
   "      'Play Again',",
   "      startGame",
   "    );",
   "  \x7d",
   "  function togglePause()\x7b",
   "    if (state === 'running') state = 'paused';",
   "    else if (state === 'paused') \x7b state = 'running'; lastTs = performance.now(); \x7d",
   "    else return;",
   "    btnPause.textContent = (state === 'paused' ? 'Resume (' : 'Pause (') + PAUSE_KEY + ')';",
   "  \x7d",
   ""]

/-- Clicks, taps and keys. -/
def pointerScript : List String :=
  ["  function handlePointer(x, y)\x7b",
   "    if (state !== 'running') return;",
   "    for (var i = orbs.length - 1; i >= 0; i--) \x7b",
   "      var b = orbs[i];",
   "      var dx = x - b.x, dy = y - b.y;",
   "      if (dx * dx + dy * dy <= b.r * b.r) \x7b",
   "        if (b.popT <= 0) \x7b b.popT = 1; popped++; popSound(); \x7d",
   "        break;",
   "      \x7d",
   "    \x7d",
   "  \x7d",
   "  canvas.addEventListener('pointerdown', function(e)\x7b",
   "    var rect = canvas.getBoundingClientRect();",
   "    handlePointer(e.clientX - rect.left, e.clientY - rect.top);",
   "  \x7d);",
   "  addEventListener('keydown', function(e)\x7b",
   "    if (e.key && e.key.toUpperCase() === cfg.pauseKey) togglePause();",
   "  \x7d);",
   "  btnPause.addEventListener('click', togglePause);",
   "  btnStart.addEventListener('click', startGame);",
   "",
   "  requestAnimationFrame(loop);",
   "\x7d)();",
   "</script>",
   "</body></html>"]

/-- The lines of the script. -/
def survivalScript : List String :=
  canvasScript ++ elementScript ++ bestTimeScript ++ soundScript ++ paletteScript
    ++ stateScript ++ spawnScript ++ scheduleScript ++ updateScript ++ drawScript
    ++ frameScript ++ cardScript ++ controlScript ++ pointerScript

end Minigame.Page
